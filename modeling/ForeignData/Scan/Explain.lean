import ForeignData.Engine

/-!
# Explanation and size of queries

What SQLite says of a query before it runs: the lines of its plan, and the number of rows that it
expects. Both are asked on a connection of their own.
-/

namespace ForeignData

variable {σ κ τ : Type} (e : Engine σ κ τ)

abbrev Property := String × String

def planDetailColumn : Nat := 3

/-- The explanation of a query: the query itself if it is wanted, and the lines of its plan. -/
def explainQuery (database query : String) (verbose : Bool) : Action σ (List Property) := do
  let connection ← e.connect .readOnly database
  let rows ← e.query connection ("EXPLAIN QUERY PLAN " ++ query)
  let lines := rows.map fun row =>
    ("sqlite plan", ((row.value planDetailColumn).asText).getD "")
  return (if verbose then [("sqlite query", query)] else []) ++ lines

/-- A number of rows that makes sense: finite and not negative. -/
def checkedRows (rows : Binary64) : Except Fault Int64 :=
  match rows.value with
  | .finite negative m _ =>
    if negative ∧ m ≠ 0 then
      .error (.noEstimate ("invalid row estimate " ++ realText rows))
    else
      .ok rows.toInt64
  | _ => .error (.noEstimate ("invalid row estimate " ++ realText rows))

/-- The number of rows that SQLite expects of a query. -/
def estimateRows (database query : String) : Action σ Int64 := do
  let connection ← e.connect .readOnly database
  let statement ← e.prepare connection query
  let rows ← Action.ofExcept (e.estimate statement)
  Action.ofExcept (checkedRows rows)

end ForeignData
