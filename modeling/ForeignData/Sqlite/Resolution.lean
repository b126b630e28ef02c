import ForeignData.Sqlite.Database
import ForeignData.Sqlite.Expression

/-!
# Resolution against a relation

The names of an expression are resolved against one relation, or against none.
-/

namespace ForeignData.Sqlite

def resolveName (relation : Option Relation) (mark : Option Char) (s : String) :
    Checked (Expr Ref) :=
  match relation with
  | none => resolveOther mark s
  | some relation =>
    match relation.table.place? s with
    | some place => .ok (.ref (.column place))
    | none =>
      if relation.hasRowid && Table.isRowidName s then .ok (.ref .rowid) else resolveOther mark s

namespace Expr

/-- Resolve the names of an expression, in order. -/
def resolve (relation : Option Relation) (x : Expr Mention) : Checked (Expr Ref) :=
  x.resolveBy (resolveName relation)

/-- Resolve the names of some expressions, in order. -/
def resolveAll (relation : Option Relation) (xs : List (Expr Mention)) :
    Checked (List (Expr Ref)) :=
  Expr.resolveAllBy (resolveName relation) xs

end Expr

end ForeignData.Sqlite
