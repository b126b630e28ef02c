import ForeignData.Engine
import ForeignData.Import.Options
import ForeignData.Import.TypeName
import ForeignData.Sql.Quote

/-!
# Import of a schema

Every table of a database becomes one statement that defines a foreign table on the host. The tables
come in the order of SQLite's own catalog, its internal tables left out, all of them or those that a
list admits. The statements are made one by one, and the first failure ends the import.
-/

namespace ForeignData

inductive ImportList where
  | all
  | limitTo (names : List String)
  | except (names : List String)
  deriving DecidableEq

structure ImportRequest where
  remoteSchema : String
  localSchema : String
  server : String
  list : ImportList
  options : ImportOptions
  deriving DecidableEq

/-- The names that the only schema of a database goes by. -/
def remoteSchemas : List String :=
  ["public", "main"]

/-! ### Texts -/

def constantList (names : List String) : String :=
  "(" ++ ", ".intercalate (names.map quoteRemoteConstant) ++ ")"

def ImportList.condition : ImportList → String
  | all => ""
  | limitTo names => " AND name IN " ++ constantList names
  | except names => " AND name NOT IN " ++ constantList names

def ImportList.query (list : ImportList) : String :=
  "SELECT name FROM sqlite_master WHERE type = 'table' AND name NOT LIKE 'sqlite_%'"
    ++ list.condition

structure RemoteColumn where
  name : String
  declaredType : String
  notNull : Bool
  /-- The text of its default value. -/
  standard : Option String
  deriving DecidableEq

def RemoteColumn.ofRow (row : ResultRow) : RemoteColumn where
  name := (row.value 1).asText.getD ""
  declaredType := (row.value 2).asText.getD ""
  notNull := (row.value 3).asInteger == 1
  standard := (row.value 4).asText

def columnsQuery (table : String) : String :=
  "PRAGMA table_info(" ++ quoteRemoteName table ++ ")"

def RemoteColumn.definition (options : ImportOptions) (column : RemoteColumn) : String :=
  let notNull := if column.notNull && options.withNotNull then " NOT NULL" else ""
  let standard :=
    match column.standard with
    | some text => if options.withDefaults then " DEFAULT " ++ text else ""
    | none => ""
  quoteName column.name ++ " " ++ importedTypeName column.declaredType ++ notNull ++ standard

def ImportRequest.statement (request : ImportRequest) (table : String)
    (columns : List RemoteColumn) : String :=
  "CREATE FOREIGN TABLE " ++ quoteName request.localSchema ++ "." ++ quoteName table ++ " (\n"
    ++ ",\n".intercalate (columns.map (RemoteColumn.definition request.options))
    ++ "\n) SERVER " ++ quoteName request.server
    ++ "\nOPTIONS (table " ++ quoteConstant table ++ ")"

/-! ### Running an import -/

/-- An import under way. It holds the listing of the tables until that ends or fails. -/
structure SchemaImport (κ τ : Type) where
  connection : κ
  tables : Option τ
  request : ImportRequest

namespace SchemaImport

variable {σ κ τ : Type} (e : Engine σ κ τ)

def new (database : String) (request : ImportRequest) : Action σ (SchemaImport κ τ) := do
  if request.remoteSchema ∉ remoteSchemas then
    throw (.noSuchSchema request.remoteSchema)
  let connection ← e.connect .readOnly database
  let tables ← e.prepare connection request.list.query
  return { connection, tables := some tables, request }

def nextTable (tables : τ) : Action σ (Option String × Option τ) := do
  let (result, tables) ← Action.holding tables e.step
  match result with
  | .row => return (((e.row tables).value 0).asText, some tables)
  | .done => return (none, none)

def tableStatement (connection : κ) (request : ImportRequest) (table : String) :
    Action σ String := do
  let rows ← e.query connection (columnsQuery table)
  return request.statement table (rows.map RemoteColumn.ofRow)

/-- The next statement, with the listing if it goes on. -/
def advance (connection : κ) (request : ImportRequest) (tables : τ) :
    Action σ (Option String × Option τ) := do
  let (table, tables) ← nextTable e tables
  match table with
  | none => return (none, tables)
  | some table => return (some (← tableStatement e connection request table), tables)

/-- The next statement, if there is one left. A failure ends the import. -/
def next : Action (SchemaImport κ τ × σ) (Option String) :=
  fun (run, s) =>
    match run.tables with
    | none => (.ok none, (run, s))
    | some tables =>
      match (advance e run.connection run.request tables).run s with
      | (.ok (statement, tables), s) => (.ok statement, ({ run with tables }, s))
      | (.error fault, s) => (.error fault, ({ run with tables := none }, s))

def tablesLeft (run : SchemaImport κ τ) (s : σ) : Nat :=
  match run.tables with
  | none => 0
  | some tables => e.rowsLeft (tables, s)

/-- The statements to the end. There have to be fewer of them than a number. -/
def takeStatements : Nat → Action (SchemaImport κ τ × σ) (List String)
  | 0 => throw .rowsPastBound
  | fuel + 1 => do
    match ← next e with
    | none => pure []
    | some statement => return statement :: (← takeStatements fuel)

/-- All statements to the end; none if one of them fails. -/
def collect : Action (SchemaImport κ τ × σ) (List String) := do
  let (run, s) ← get
  takeStatements e (run.tablesLeft e s + 1)

end SchemaImport

def importSchema {σ κ τ : Type} (e : Engine σ κ τ) (database : String)
    (request : ImportRequest) : Action σ (List String) := do
  let run ← SchemaImport.new e database request
  let (statements, _) ← Action.holding run (SchemaImport.collect e)
  return statements

end ForeignData
