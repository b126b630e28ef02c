import ForeignData.Fault
import ForeignData.Plan.Query
import ForeignData.Sql.Quote

/-!
# Plans of changes

A mutation becomes one statement for SQLite. The columns that it gives values to take the first
placeholders in order; a row that has to be there already is named by its key in the placeholder
behind them.
-/

namespace ForeignData

/-- What is kept of a mutation for its execution. -/
structure ChangePlan where
  mutation : Mutation
  query : String
  deriving DecidableEq

/-- The columns of attributes, in order; the first unknown one is a fault. -/
def HostTable.columnsOf (table : HostTable) : List AttrNumber → Except Fault (List HostColumn)
  | [] => .ok []
  | n :: ns =>
    match table.column? n with
    | none => .error (.unknownAttribute n)
    | some column => (table.columnsOf ns).map (column :: ·)

def placeholderText (index : Nat) : String :=
  "?" ++ natString index

/-- Placeholders for some values, counted on from `index`. -/
def placeholders (index : Nat) : List String → List String
  | [] => []
  | _ :: names => placeholderText index :: placeholders (index + 1) names

/-- Names that are given the values of placeholders, counted on from `index`. -/
def assignments (index : Nat) : List String → List String
  | [] => []
  | name :: names => (name ++ " = " ++ placeholderText index) :: assignments (index + 1) names

def rowidCondition (index : Nat) : String :=
  " WHERE " ++ rowidName ++ " = " ++ placeholderText index

/-- The statement of a mutation on a remote table, given its columns as they are written. -/
def Mutation.statement (m : Mutation) (remoteName : String) (names : List String) :
    Except Fault String :=
  let table := quoteRemoteName remoteName
  match m, names with
  | insert _, [] => .ok ("INSERT INTO " ++ table ++ " DEFAULT VALUES")
  | insert _, names =>
    .ok ("INSERT INTO " ++ table ++ " (" ++ ", ".intercalate names ++ ") VALUES ("
      ++ ", ".intercalate (placeholders 1 names) ++ ")")
  | update _, [] => .error (.misuse (.updateWithoutTargets remoteName))
  | update _, names =>
    .ok ("UPDATE " ++ table ++ " SET " ++ ", ".intercalate (assignments 1 names)
      ++ rowidCondition (names.length + 1))
  | delete, _ => .ok ("DELETE FROM " ++ table ++ rowidCondition 1)

def Mutation.plan (m : Mutation) (table : HostTable) (remoteName : String) :
    Except Fault ChangePlan := do
  let columns ← table.columnsOf m.targets
  let query ← m.statement remoteName (columns.map fun c => quoteRemoteName c.name)
  return { mutation := m, query }

end ForeignData
