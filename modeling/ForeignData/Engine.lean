import ForeignData.Stored.Binding

/-!
# Engines

What is asked of a database engine: to open a database, to prepare statements on it, and to bind,
step and rewind a statement. The world of the engine is kept apart from the statements, which belong
to whoever holds them; a statement that is no longer held is gone. Statements that others hold may
get in the way of what is done besides them.
-/

namespace ForeignData

/-- How a database is opened. Opening never creates one. -/
inductive OpenMode where
  | readOnly
  | readWrite
  deriving DecidableEq

inductive StepResult where
  | row
  | done
  deriving DecidableEq

/-- An engine with worlds `σ`, connections `κ` and statements `τ`. -/
structure Engine (σ κ τ : Type) where
  connect : OpenMode → (path : String) → Action σ κ
  prepare : κ → (query : String) → Action σ τ
  bind : BindCall → Action (τ × σ) Unit
  clearBindings : Action (τ × σ) Unit
  step : Action (τ × σ) StepResult
  reset : Action (τ × σ) Unit
  /-- The number of result columns. -/
  width : τ → Nat
  /-- The values of the row that a statement stands on. -/
  row : τ → ResultRow
  /-- The number of rows that the last change on the connection of a statement has touched. -/
  changes : τ → Nat
  /-- The number of rows that the engine expects of a statement. -/
  estimate : τ → Except Fault Binary64
  /-- No more rows than this are to come. -/
  rowsLeft : τ × σ → Nat
  /-- The world for someone besides whom others hold statements. -/
  besides : List τ → σ → σ

/-- Act on a statement that one holds. It is gone if the action fails. -/
def Action.holding {σ τ α : Type} (statement : τ) (action : Action (τ × σ) α) :
    Action σ (α × τ) :=
  fun s =>
    match action.run (statement, s) with
    | (.ok a, (statement, s)) => (.ok (a, statement), s)
    | (.error fault, (_, s)) => (.error fault, s)

namespace Engine

variable {σ κ τ : Type} (e : Engine σ κ τ)

/-- Step up to the end and collect the rows. There have to be fewer rows than a number. -/
def takeRows : Nat → Action (τ × σ) (List ResultRow)
  | 0 => throw .rowsPastBound
  | fuel + 1 => do
    match ← e.step with
    | .done => pure []
    | .row =>
      let row := e.row (← get).1
      let rows ← takeRows fuel
      return row :: rows

def allRows : Action (τ × σ) (List ResultRow) := do
  e.takeRows (e.rowsLeft (← get) + 1)

def query (connection : κ) (text : String) : Action σ (List ResultRow) := do
  let statement ← e.prepare connection text
  let (rows, _) ← Action.holding statement e.allRows
  return rows

end Engine

end ForeignData
