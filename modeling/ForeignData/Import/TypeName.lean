import ForeignData.Text.Blank
import ForeignData.Text.LowerCase

/-!
# Names of imported types

The declared type of an imported column becomes the name of a host type. Case does not matter. A
few names have a host type of their own, every name that begins with `text` is text, a column
without a declared type is text, and all other names stay as they are.
-/

namespace ForeignData

/-- The host type of a declared type that goes by another name there. -/
def renamedType? (name : String) : Option String :=
  match name with
  | "tinyint" => some "smallint"
  | "mediumint" => some "integer"
  | "unsigned big int" => some "bigint"
  | "double" => some "double precision"
  | "datetime" => some "timestamp"
  | "nvarchar text" => some "text"
  | "longvarchar" => some "text"
  | "blob" => some "bytea"
  | "integer" => some "bigint"
  | _ => none

def importedTypeName (declared : String) : String :=
  let name := lower declared
  if trim name.toList = [] then "text"
  else if "text".toList.isPrefixOf name.toList then "text"
  else (renamedType? name).getD name

end ForeignData
