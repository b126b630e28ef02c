/-!
# Host types

The column and parameter types of the host database. A type is either one of those whose values
have a form of their own, or it is known by its schema and name only and its values are kept in the
type's text syntax.
-/

namespace ForeignData

inductive HostType where
  | bool
  | int2
  | int4
  | int8
  | float4
  | float8
  | numeric
  | text
  | varchar
  | bpchar
  | name
  | bytea
  | date
  | time
  | timestamp
  | timestamptz
  /-- A type known by its schema and name only. -/
  | other (schema name : String)
  deriving DecidableEq

namespace HostType

/-- The schema of the types that the host itself defines. -/
def systemSchema : String := "pg_catalog"

/-- The name of a type; the schemas that are searched by default are left out. -/
def display : HostType → String
  | bool => "bool"
  | int2 => "int2"
  | int4 => "int4"
  | int8 => "int8"
  | float4 => "float4"
  | float8 => "float8"
  | numeric => "numeric"
  | text => "text"
  | varchar => "varchar"
  | bpchar => "bpchar"
  | name => "name"
  | bytea => "bytea"
  | date => "date"
  | time => "time"
  | timestamp => "timestamp"
  | timestamptz => "timestamptz"
  | other schema base =>
    if schema = systemSchema ∨ schema = "public" then base else schema ++ "." ++ base

/-- The types with a form of their own. -/
def natives : List HostType :=
  [bool, int2, int4, int8, float4, float8, numeric, text, varchar, bpchar, name, bytea, date, time,
   timestamp, timestamptz]

/-- The types whose values are plain text. -/
def isText : HostType → Bool
  | text | varchar | bpchar | name => true
  | _ => false

/-- The types whose values have a form of their own. -/
def isNative : HostType → Bool
  | other .. => false
  | _ => true

/-- The type that a name refers to: a bare name to a type of the host itself, a name with a schema
to a type defined there. -/
def ofName (s : String) : HostType :=
  let schema := s.toList.takeWhile (· != '.')
  match s.toList.dropWhile (· != '.') with
  | [] => (natives.find? (·.display == s)).getD (other systemSchema s)
  | _ :: rest => other (String.ofList schema) (String.ofList rest)

theorem isNative_of_isText {ty : HostType} (h : ty.isText = true) : ty.isNative = true := by
  cases ty <;> simp_all [isText, isNative]

end HostType

end ForeignData
