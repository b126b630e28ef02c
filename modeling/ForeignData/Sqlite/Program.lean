import ForeignData.Sqlite.Access
import ForeignData.Sqlite.Parser.Statement
import ForeignData.Sqlite.Resolution

/-!
# Programs

A statement that has been read is resolved against a database, and becomes a program: what it
computes, the number of its result columns and of its placeholders, and how many rows are expected.
Tables are looked up first, then names in the order in which they stand.
-/

namespace ForeignData.Sqlite

structure TableQuery where
  /-- The name by which the query calls what it goes through. -/
  relation : String
  table : String
  items : List (Expr Ref)
  condition : Option (Expr Ref)
  search : Search

/-- What a program does. -/
inductive Operation where
  /-- Give rows that are fixed beforehand; a plan is given once only. -/
  | fixed (rows : List (List Cell)) (once : Bool)
  /-- Give one row that comes from no table. -/
  | constants (items : List (Expr Ref)) (condition : Option (Expr Ref))
  | query (q : TableQuery)
  /-- Insert a row of values, one for each column, under a rowid if one is given. -/
  | insert (table : String) (rowid : Option (Expr Ref)) (values : List (Expr Ref))
  /-- Give columns, and perhaps the rowid, new values in some rows. -/
  | update (table : String) (rowid : Option (Expr Ref)) (sets : List (Nat × Expr Ref))
      (condition : Option (Expr Ref))
  | delete (table : String) (condition : Option (Expr Ref))

/-- Whether a program changes a database. -/
def Operation.isChange : Operation → Bool
  | .insert .. | .update .. | .delete .. => true
  | .fixed .. | .constants .. | .query _ => false

def Operation.readTable? : Operation → Option String
  | .query q => some q.table
  | _ => none

def Operation.changedTable? : Operation → Option String
  | .insert table .. | .update table .. | .delete table _ => some table
  | .fixed .. | .constants .. | .query _ => none

structure Program where
  operation : Operation
  /-- The number of result columns. -/
  width : Nat
  placeholders : Nat
  /-- The number of rows expected, where a table is gone through. -/
  estimate : Option LogEst

/-- A program without its placeholders, with the line of its plan. -/
structure Compiled where
  operation : Operation
  width : Nat
  estimate : Option LogEst
  planLine : Option String

/-! ### Queries -/

def resolveCondition (relation : Option Relation) :
    Option (Expr Mention) → Checked (Option (Expr Ref))
  | none => .ok none
  | some x => (x.resolve relation).map some

def resolveItems (relation : Option Relation) :
    List (ResultItem Mention) → Checked (List (Expr Ref))
  | [] => .ok []
  | .value x :: items => do return (← x.resolve relation) :: (← resolveItems relation items)
  | .allColumns :: items =>
    match relation with
    | none => .error "no tables specified"
    | some relation => do
      let places := List.range relation.table.columns.length
      return (places.map fun p => .ref (.column p)) ++ (← resolveItems (some relation) items)

/-- Refuse too many result columns, where all columns of a table are a number of them. -/
def checkItemCount (items : List (ResultItem Mention)) (allColumns : Nat) : Checked Unit :=
  let count := items.foldl (fun count item =>
    match item with
    | .value _ => count + 1
    | .allColumns => count + allColumns) 0
  if maxColumns < count then .error "too many columns in result set" else .ok ()

def usedColumns (t : Table) (xs : List (Expr Ref)) : List Nat :=
  (Expr.allRefs xs).filterMap fun r =>
    match t.canonicalRef r with
    | .column place => some place
    | .rowid => none

def accessGoal (t : Table) (items : List (Expr Ref)) (condition : Option (Expr Ref))
    (forChange : Bool) : AccessGoal where
  table := t
  used := usedColumns t (items ++ condition.toList)
  terms := (condition.map (if forChange then changeTerms t else queryTerms t)).getD []
  forChange

/-- The plan of a query that goes through no table. -/
def constantPlan : String := "SCAN CONSTANT ROW"

def compileSelect (db : Database) (items : List (ResultItem Mention)) (table : Option String)
    (condition : Option (Expr Mention)) : Checked Compiled :=
  match table with
  | none => do
    checkItemCount items 1
    let items ← resolveItems none items
    let condition ← resolveCondition none condition
    checkSizes (condition.toList ++ items)
    return { operation := .constants items condition, width := items.length, estimate := none,
             planLine := some constantPlan }
  | some name =>
    match db.lookup? name with
    | none => .error ("no such table: " ++ name)
    | some relation => do
      checkItemCount items relation.table.columns.length
      let items ← resolveItems (some relation) items
      let condition ← resolveCondition (some relation) condition
      checkSizes (condition.toList ++ items)
      let path := (accessGoal relation.table items condition false).best
      let line := path.search.describe relation.table relation.shownName
      let query : TableQuery :=
        { relation := name, table := relation.table.name, items, condition, search := path.search }
      return { operation := .query query, width := items.length, estimate := some path.rows,
               planLine := some line }

/-! ### Changes -/

def changedTable (db : Database) (name : String) : Checked Relation :=
  match db.lookup? name with
  | none => .error ("no such table: " ++ name)
  | some relation =>
    match relation.kind with
    | .table => .ok relation
    | .catalog => .error ("table " ++ name ++ " may not be modified")
    | .view => .error ("cannot modify " ++ name ++ " because it is a view")

/-- What a name of a column list stands for. -/
def insertTarget (relation : Relation) (written name : String) : Checked Ref :=
  match relation.table.place? name with
  | some place => .ok (.column place)
  | none =>
    if relation.hasRowid && Table.isRowidName name then .ok .rowid
    else .error ("table " ++ written ++ " has no column named " ++ name)

def insertTargets (relation : Relation) (written : String) : List String → Checked (List Ref)
  | [] => .ok []
  | name :: names => do
    return (← insertTarget relation written name) :: (← insertTargets relation written names)

/-- The value that is given for the rowid last, under whatever name. -/
def givenKey (given : List (Ref × Expr Ref)) (t : Table) : Option (Expr Ref) :=
  (given.reverse.find? fun (ref, _) => t.canonicalRef ref == .rowid).map Prod.snd

/-- The value of each column: what it is given first, or its default. A column that stands for the
rowid has no default. -/
def columnValues (given : List (Ref × Expr Ref)) (t : Table) : List (Expr Ref) :=
  t.columns.mapIdx fun place c =>
    if t.rowidColumn? = some place then .constant .null
    else (given.lookup (.column place)).getD (.constant c.defaultCell)

def insertion (relation : Relation) (given : List (Ref × Expr Ref)) : Compiled where
  operation :=
    .insert relation.table.name (givenKey given relation.table)
      (columnValues given relation.table)
  width := 0
  estimate := none
  planLine := none

/-- The number of values has to be that of the columns. -/
def checkValueCount (written : String) (columns : Option (List String)) (expected actual : Nat) :
    Checked Unit :=
  if expected = actual then .ok ()
  else if columns.isSome then
    .error (natString actual ++ " values for " ++ natString expected ++ " columns")
  else
    .error ("table " ++ written ++ " has " ++ natString expected ++ " columns but "
      ++ natString actual ++ " values were supplied")

def compileInsert (db : Database) (written : String) (columns : Option (List String))
    (values : List (Expr Mention)) : Checked Compiled := do
  let relation ← changedTable db written
  let targets ←
    match columns with
    | some names => insertTargets relation written names
    | none => pure ((List.range relation.table.columns.length).map Ref.column)
  let values ← Expr.resolveAll none values
  checkValueCount written columns targets.length values.length
  let given := targets.zip values
  checkSizes ((givenKey given relation.table).toList ++ columnValues given relation.table)
  return insertion relation given

/-- Resolve new values with their columns, in order. -/
def resolveSets (relation : Relation) :
    List (String × Expr Mention) → Checked (List (Ref × Expr Ref))
  | [] => .ok []
  | (name, x) :: sets => do
    let x ← x.resolve (some relation)
    let ref ←
      match relation.table.place? name with
      | some place => pure (Ref.column place)
      | none =>
        if relation.hasRowid && Table.isRowidName name then pure Ref.rowid
        else throw ("no such column: " ++ name)
    return (ref, x) :: (← resolveSets relation sets)

/-- A change of those rows of a table that pass a condition. The rows are changed as they are found,
which takes more than an index, unless there are several that change their places. -/
def changeOf (relation : Relation) (operation : Operation) (values : List (Expr Ref))
    (condition : Option (Expr Ref)) (walks moves : Bool) : Compiled :=
  let t := relation.table
  let goal := accessGoal t values condition true
  let path := goal.best
  let isDirect := t.hasRowid && (!moves || goal.findsOne path)
  let search := if isDirect then { path.search with covering := false } else path.search
  { operation
    width := 0
    estimate := if walks then some path.rows else none
    planLine := if walks then some (search.describe t relation.shownName) else none }

def compileUpdate (db : Database) (written : String) (sets : List (String × Expr Mention))
    (condition : Option (Expr Mention)) : Checked Compiled := do
  let relation ← changedTable db written
  let sets ← resolveSets relation sets
  let condition ← resolveCondition (some relation) condition
  let rowid := sets.reverse.lookup Ref.rowid
  let columns := sets.filterMap fun (ref, x) =>
    match ref with
    | .column place => some (place, x)
    | .rowid => none
  let inOrder := (List.range relation.table.columns.length).filterMap fun place =>
    columns.reverse.lookup place
  checkSizes (condition.toList ++ rowid.toList ++ inOrder)
  let moves := rowid.isSome || columns.any fun (place, _) =>
    relation.table.keyPlaces.contains place || relation.table.rowidColumn? == some place
  return changeOf relation (.update relation.table.name rowid columns condition)
    (rowid.toList ++ inOrder) condition true moves

/-- Compile a removal of rows. Without a condition the rows are not gone through. -/
def compileDelete (db : Database) (written : String) (condition : Option (Expr Mention)) :
    Checked Compiled := do
  let relation ← changedTable db written
  let condition ← resolveCondition (some relation) condition
  checkSizes condition.toList
  return changeOf relation (.delete relation.table.name condition) [] condition condition.isSome
    false

/-! ### Listings -/

/-- A truth value as a number. -/
def flagCell (b : Bool) : Cell :=
  .integer (if b then 1 else 0)

/-- The columns of a table: number, name, type, whether null is refused, default value, and place
in the key. -/
def columnRows (t : Table) : List (List Cell) :=
  t.columns.mapIdx fun place c =>
    [.integer (Int64.ofNat place), .ofText c.name, .ofText c.declaredType, flagCell c.notNull,
     (c.defaultText.map Cell.ofText).getD .null, .integer (Int64.ofNat c.keyNumber)]

def columnRowsWidth : Nat := 6

def planWidth : Nat := 4

def planRows (line : Option String) : List (List Cell) :=
  line.toList.map fun line => [.integer 2, .integer 0, .integer 0, .ofText line]

/-! ### Statements -/

def Statement.compile (db : Database) : Statement → Checked Compiled
  | .select items table condition => compileSelect db items table condition
  | .insert table columns values => compileInsert db table columns values
  | .insertDefaults table => do return insertion (← changedTable db table) []
  | .update table sets condition => compileUpdate db table sets condition
  | .delete table condition => compileDelete db table condition
  | .tableInfo table =>
    let rows := ((db.lookup? table).map fun r => columnRows r.table).getD []
    .ok { operation := .fixed rows false, width := columnRowsWidth, estimate := none,
          planLine := none }
  | .explain statement => do
    let compiled ← statement.compile db
    return { operation := .fixed (planRows compiled.planLine) true, width := planWidth,
             estimate := none, planLine := none }

/-- Whether a statement looks into a database at all. -/
def Statement.usesDatabase : Statement → Bool
  | .select _ table _ => table.isSome
  | .explain statement => statement.usesDatabase
  | _ => true

def ParsedStatement.program (db : Database) (parsed : ParsedStatement) : Checked Program := do
  let compiled ← parsed.statement.compile db
  return { operation := compiled.operation, width := compiled.width,
           placeholders := parsed.placeholders, estimate := compiled.estimate }

end ForeignData.Sqlite
