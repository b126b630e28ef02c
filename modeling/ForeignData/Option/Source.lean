import ForeignData.Option.Basic
import ForeignData.Text.Split

/-!
# Where the rows of a foreign table are

The options of a server name its database and the extensions that it trusts, the options of a table
its remote name and its conversion policy. Together they say where the rows are.
-/

namespace ForeignData

structure ServerOptions where
  database : String
  /-- The extensions whose functions may be evaluated remotely. -/
  extensions : List Oid
  deriving DecidableEq

structure TableOptions where
  table : Option String
  policy : ConversionPolicy
  deriving DecidableEq

/-- The remote table of a foreign table. -/
structure TableSource where
  database : String
  table : String
  policy : ConversionPolicy
  deriving DecidableEq

/-- The names of a list separated by commas, without blanks around them; empty ones do not count. -/
def listedNames (s : String) : List String :=
  ((splitAtMark ',' s.toList).map trim).filterMap fun part =>
    if part = [] then none else some (String.ofList part)

/-- The identifiers of extensions, each once, onto those already found. -/
def findExtensions (catalog : Catalog) : List Oid → List String → Except Fault (List Oid)
  | found, [] => .ok found
  | found, name :: names =>
    match catalog.extensionOid name with
    | none => .error (.unknownExtension name)
    | some oid => findExtensions catalog (if oid ∈ found then found else found ++ [oid]) names

def ServerOptions.ofList (catalog : Catalog) (options : OptionList) :
    Except Fault ServerOptions :=
  match options.find? "database" with
  | none => .error .missingDatabase
  | some database => do
    let names := ((options.find? "extensions").map listedNames).getD []
    return { database, extensions := ← findExtensions catalog [] names }

def TableOptions.ofList (options : OptionList) : Except Fault TableOptions := do
  let policy ←
    match options.find? "on_conversion_error" with
    | none => .ok .error
    | some s => ConversionPolicy.read s
  return { table := options.find? "table", policy }

/-- The source of a foreign table; without a remote name it is the table's own. -/
def TableSource.resolve (server : ServerOptions) (table : TableOptions) (name : String) :
    TableSource where
  database := server.database
  table := table.table.getD name
  policy := table.policy

end ForeignData
