import ForeignData.Host.Table
import ForeignData.Text.Digits

/-!
# Mutations

The three changes that a foreign table takes: new rows with values for some columns, new values for
some columns of one row, and the removal of one row.
-/

namespace ForeignData

/-- A change and the columns that it gives values to. -/
inductive Mutation where
  | insert (targets : List AttrNumber)
  | update (targets : List AttrNumber)
  | delete
  deriving DecidableEq

namespace Mutation

/-- The columns that a mutation gives values to. -/
def targets : Mutation → List AttrNumber
  | insert ts => ts
  | update ts => ts
  | delete => []

/-- Whether a mutation applies to one existing row. -/
def needsRowid : Mutation → Bool
  | insert _ => false
  | update _ => true
  | delete => true

def display (m : Mutation) : String :=
  let list := ", ".intercalate (m.targets.map fun n => intString n.toInt)
  match m with
  | insert _ => s!"Insert \x7b target_attrs: [{list}] \x7d"
  | update _ => s!"Update \x7b target_attrs: [{list}] \x7d"
  | delete => "Delete"

end Mutation

end ForeignData
