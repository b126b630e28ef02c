import ForeignData.Sql.Quote
import ForeignData.Sqlite.Database
import ForeignData.Sqlite.Parser.Statement

/-!
# Schemas

A database keeps its definitions as the texts of the statements that have made them. Each of them is
read back here. What a definition says beyond keys, uniqueness and columns is passed over, and an
object that cannot be told in these terms is only listed.
-/

namespace ForeignData.Sqlite

/-! ### Pieces of a definition -/

/-- What is behind a symbol, if a text begins with it. -/
def dropSymbol? (symbol : String) (s : List Char) : Option (List Char) := do
  let (token, rest) ← firstToken? s
  if token = .symbol symbol then some rest else none

/-- A text from the comma or the parenthesis on that ends an item. -/
def dropItem : Nat → Nat → List Char → List Char
  | 0, _, s => s
  | fuel + 1, depth, s =>
    match firstToken? s with
    | none => []
    | some (.symbol "(", rest) => dropItem fuel (depth + 1) rest
    | some (.symbol ")", rest) =>
      match depth with
      | 0 => s
      | depth + 1 => dropItem fuel depth rest
    | some (.symbol ",", rest) => if depth = 0 then s else dropItem fuel depth rest
    | some (_, rest) => dropItem fuel depth rest

/-- The items between commas up to a closing parenthesis, and what is behind it. -/
def takeItems : Nat → List Char → List (List Char) × List Char
  | 0, s => ([], s)
  | fuel + 1, s =>
    let rest := dropItem s.length 0 s
    let item := spellingOf s rest
    match firstToken? rest with
    | some (.symbol ",", rest) =>
      let (items, rest) := takeItems fuel rest
      (item :: items, rest)
    | some (_, rest) => ([item], rest)
    | none => ([item], [])

/-- The items behind an open parenthesis. -/
def itemsOf (s : List Char) : List (List Char) × List Char :=
  takeItems (s.length + 1) s

def hasWord (word : String) (s : List Char) : Bool :=
  (tokens s).any fun lexeme => Parser.isKeyword word lexeme.token

/-! ### Tables -/

/-- What is behind the type that a text begins with. A type is made of names, and of numbers in
parentheses at its end. -/
def dropType : Nat → List Char → List Char
  | 0, s => s
  | fuel + 1, s =>
    match firstToken? s with
    | some (.symbol "(", rest) => skipParens rest.length 0 rest
    | some (.string _, rest) => dropType fuel rest
    | some (token, rest) =>
      let isGenerated := Parser.isKeyword "generated" token && (dropWord? "always" rest).isSome
      if (Parser.nameOf? token).isNone || isGenerated then s else dropType fuel rest
    | none => s

def ColumnDefinition.ofItem? (item : List Char) : Option ColumnDefinition := do
  let (name, rest) ← takeName? item
  let rest := skipBlanks rest.length rest
  let constraints := dropType rest.length rest
  return { name, declaredType := String.ofList (spellingOf rest constraints),
           constraints := String.ofList constraints }

/-- The words that constraints of tables begin with. -/
def constraintWords : List String :=
  ["constraint", "primary", "unique", "check", "foreign"]

/-- Whether an item declares constraints of the table. -/
def isConstraintItem (item : List Char) : Bool :=
  constraintWords.any fun word => (dropWord? word item).isSome

def readTableConstraints : Nat → List Char → List TableConstraint
  | 0, _ => []
  | fuel + 1, s =>
    match firstToken? s with
    | none => []
    | some (.symbol "(", rest) => readTableConstraints fuel (takeParens rest).2
    | some (token, rest) =>
      let isKey := Parser.isKeyword "primary" token
      if isKey || Parser.isKeyword "unique" token then
        match dropSymbol? "(" ((dropWord? "key" rest).getD rest) with
        | none => readTableConstraints fuel rest
        | some rest =>
          let (items, rest) := itemsOf rest
          { isKey, columns := items.filterMap fun item => (takeName? item).map Prod.fst }
            :: readTableConstraints fuel rest
      else
        readTableConstraints fuel rest

/-- The conditions on rows that an item declares, from a name on. -/
def readTableChecks (name : Option String) (item : List Char) : List CheckDefinition :=
  (Constraints.ofText (String.ofList item) name).checks

/-- The conditions on rows that items declare behind columns. The first item begins with the name of
the constraints of the last column. -/
def tableChecks (columns : List ColumnDefinition) : List (List Char) → List CheckDefinition
  | [] => []
  | first :: items =>
    let name := columns.getLast?.bind fun c => (Constraints.ofText c.constraints).name
    readTableChecks name first ++ items.flatMap (readTableChecks none)

def TableDefinition.ofText? (sql : String) : Option TableDefinition := do
  let (name, rest) ← takeName? (← dropWord? "table" (← dropWord? "create" sql.toList))
  let (items, rest) := itemsOf (← dropSymbol? "(" rest)
  let (constraints, columns) := items.partition isConstraintItem
  let columns := columns.filterMap ColumnDefinition.ofItem?
  return { name, columns,
           constraints := constraints.flatMap fun item => readTableConstraints item.length item,
           checks := tableChecks columns constraints,
           withoutRowid := hasWord "rowid" rest }

/-- The definition of a table by the names, types and constraints of its columns, which are read as
the text of a statement: what a type or a constraint goes on to say counts too. -/
def TableDefinition.ofColumns (name : String) (columns : List ColumnDefinition)
    (withoutRowid : Bool) : TableDefinition :=
  let item (c : ColumnDefinition) : String :=
    quoteRemoteName c.name ++ " " ++ c.declaredType ++ " " ++ c.constraints
  let sql := "CREATE TABLE " ++ quoteRemoteName name ++ " ("
    ++ ", ".intercalate (columns.map item) ++ ")" ++ (if withoutRowid then " WITHOUT ROWID" else "")
  (ofText? sql).getD { name, columns, withoutRowid }

/-! ### Indexes and views -/

/-- The column of an item of an index; none if the item is not a column in its own order. -/
def indexedColumn? (item : List Char) : Option String := do
  let (name, rest) ← takeName? item
  let rest := (dropWord? "asc" rest).getD rest
  if (firstToken? rest).isNone then some name else none

/-- The definition that the text of a statement gives of an index; none if it is not over columns of
all rows. -/
def IndexDefinition.ofText? (sql : String) : Option IndexDefinition := do
  let rest ← dropWord? "create" sql.toList
  let unique := dropWord? "unique" rest
  let (name, rest) ← takeName? (← dropWord? "index" (unique.getD rest))
  let (table, rest) ← takeName? (← dropWord? "on" rest)
  let (items, rest) := itemsOf (← dropSymbol? "(" rest)
  let columns ← items.mapM indexedColumn?
  if hasWord "where" rest then none
  else return { name, table, columns, unique := unique.isSome }

/-- The view that the text of a statement defines; none if it is not one of all columns of a
table. -/
def View.ofText? (sql : String) : Option View := do
  let (name, rest) ← takeName? (← dropWord? "view" (← dropWord? "create" sql.toList))
  let query := String.ofList (← dropWord? "as" rest)
  match parse query with
  | .ok (some ⟨.select [.allColumns] (some table) none, _⟩) => some { name, table }
  | _ => none

/-! ### Catalogs -/

def EntryKind.ofWord? (word : String) : Option EntryKind :=
  [EntryKind.table, .index, .view].find? fun kind => kind.word = word

namespace Database

/-- Add an object to the catalog only. -/
def listEntry (db : Database) (entry : CatalogEntry) : Database :=
  { db with catalog := db.catalog ++ [entry] }

def addObject (db : Database) (entry : CatalogEntry) (sql : String) : Database :=
  match entry.kind with
  | .table => ((TableDefinition.ofText? sql).map db.addDefined).getD (db.listEntry entry)
  | .index => ((IndexDefinition.ofText? sql).map db.addIndex).getD (db.listEntry entry)
  | .view =>
    ((View.ofText? sql).map fun v => db.addView v.name v.table).getD (db.listEntry entry)

/-- Add the object of a row of a stored catalog. What has no text has come with a table. -/
def addCatalogRow (db : Database) (row : List Cell) : Database :=
  match row with
  | [.text kind, .text name, .text table, _, .text sql] =>
    match EntryKind.ofWord? (lossyText kind) with
    | some kind => db.addObject ⟨kind, lossyText name, lossyText table⟩ (lossyText sql)
    | none => db
  | _ => db

/-- The database of a stored catalog. Its tables have no rows. -/
def ofCatalog (rows : List (List Cell)) : Database :=
  rows.foldl addCatalogRow empty

end Database

end ForeignData.Sqlite
