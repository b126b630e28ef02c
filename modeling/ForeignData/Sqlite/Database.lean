import ForeignData.Sqlite.Definition
import ForeignData.Sqlite.Rows

/-!
# Databases

A database has tables, views that show all of one table, and a catalog that lists them in the order
in which they were made. The catalog is a table itself; of its columns, the places on disk and the
texts of the definitions are not kept.
-/

namespace ForeignData.Sqlite

/-- A view of all columns of a table. -/
structure View where
  name : String
  table : String

/-- The kinds of objects that the catalog lists. -/
inductive EntryKind where
  | table
  | index
  | view
  deriving DecidableEq

def EntryKind.word : EntryKind → String
  | table => "table"
  | index => "index"
  | view => "view"

/-- An object with the table that it belongs to. -/
structure CatalogEntry where
  kind : EntryKind
  name : String
  table : String

/-- What a relation is besides its rows. -/
inductive RelationKind where
  | table
  | catalog
  | view
  deriving DecidableEq

/-- What a name of a query stands for. -/
structure Relation where
  table : Table
  kind : RelationKind
  /-- The name by which a plan shows the table. -/
  shownName : String

/-- Whether the rowid of a relation can be referred to. -/
def Relation.hasRowid (r : Relation) : Bool :=
  r.table.hasRowid && r.kind != .view

structure Database where
  tables : List Table
  views : List View
  catalog : List CatalogEntry

namespace Database

def empty : Database where
  tables := []
  views := []
  catalog := []

/-- Add an empty table, with the indexes that it brings with it. -/
def addDefined (db : Database) (d : TableDefinition) : Database :=
  let t := d.table
  let listed := t.indexes.reverse.filter fun i => !i.holdsRows
  let own := listed.map fun i => (⟨.index, i.name, t.name⟩ : CatalogEntry)
  { db with
    tables := db.tables ++ [t]
    catalog := db.catalog ++ ⟨.table, t.name, t.name⟩ :: own }

/-- The table of the greatest rowids that have been given in tables which do not give one twice. -/
def countersName : String := "sqlite_sequence"

/-- The definition of the table of greatest rowids. -/
def countersDefinition : TableDefinition where
  name := countersName
  columns := [⟨"name", "", ""⟩, ⟨"seq", "", ""⟩]
  withoutRowid := false

/-- Add an empty table. The first that does not give a rowid twice brings the table of greatest
rowids with it. -/
def addTable (db : Database) (d : TableDefinition) : Database :=
  let db := db.addDefined d
  let hasCounters := db.tables.any fun t => t.name == countersName
  if d.table.isCounting && !hasCounters then db.addDefined countersDefinition else db

def addView (db : Database) (name table : String) : Database :=
  { db with
    views := db.views ++ [⟨name, table⟩]
    catalog := db.catalog ++ [⟨.view, name, name⟩] }

def addIndex (db : Database) (d : IndexDefinition) : Database :=
  { db with
    tables := db.tables.map fun t => if sameName t.name d.table then t.addIndex d else t
    catalog := db.catalog ++ [⟨.index, d.name, d.table⟩] }

/-- Put a table in the place of the one of its name. -/
def putTable (db : Database) (t : Table) : Database :=
  { db with tables := db.tables.map fun o => if o.name = t.name then t else o }

/-! ### The catalog as a table -/

def catalogColumn (name declaredType : String) : Column where
  name
  declaredType
  affinity := .ofDeclared declaredType
  notNull := false
  defaultText := none
  defaultCell := .null
  keyNumber := 0
  width := typeWidth declaredType

def catalogRows : Nat → List CatalogEntry → List Row
  | _, [] => []
  | number, entry :: entries =>
    { rowid := Int64.ofNat number,
      cells := [.ofText entry.kind.word, .ofText entry.name, .ofText entry.table, .null, .null] }
      :: catalogRows (number + 1) entries

def catalogNames : List String := ["sqlite_master", "sqlite_schema"]

def catalogTable (db : Database) : Table where
  name := "sqlite_master"
  columns := [catalogColumn "type" "TEXT", catalogColumn "name" "TEXT",
    catalogColumn "tbl_name" "TEXT", catalogColumn "rootpage" "INT", catalogColumn "sql" "TEXT"]
  key := .rowid none
  indexes := []
  rows := catalogRows 1 db.catalog

/-! ### Looking up -/

def table? (db : Database) (name : String) : Option Table :=
  db.tables.find? fun t => sameName t.name name

def lookup? (db : Database) (name : String) : Option Relation :=
  match db.table? name with
  | some table => some { table, kind := .table, shownName := name }
  | none =>
    if catalogNames.contains (lowerAscii name) then
      some { table := db.catalogTable, kind := .catalog, shownName := name }
    else do
      let view ← db.views.find? fun v => sameName v.name name
      let table ← db.table? view.table
      return { table, kind := .view, shownName := view.table }

/-- The greatest rowid that has been given in a table, as the table of these says it, with the row
that says it. -/
def counter? (counters : Table) (t : Table) : Option (Row × Int64) :=
  (counters.rows.find? fun r => r.cell 0 == .ofText t.name).map fun r =>
    (r, (r.cell 1).toStored.asInteger)

/-- Note a rowid that has been given, if it is the first one or the greatest. -/
def count (counters : Table) (t : Table) (rowid : Int64) : Checked Table := do
  match counter? counters t with
  | none =>
    let greatest := if rowid < 0 then 0 else rowid
    let values := [.ofText t.name, .integer greatest]
    return (← counters.insert (pure counters.nextRowid) none values).1
  | some (r, given) =>
    if rowid ≤ given then return counters
    else counters.replace r none [.ofText t.name, .integer rowid]

def insertRow (db : Database) (table : String) (rowid : Option Int64) (values : List Cell) :
    Checked Database :=
  match db.table? table with
  | none => .error ("no such table: " ++ table)
  | some t =>
    match if t.isCounting then db.table? countersName else none with
    | none => do
      let (t, _) ← t.insert (pure t.nextRowid) rowid values
      return db.putTable t
    | some counters => do
      let given := ((counter? counters t).map Prod.snd).getD 0
      let (t, rowid) ← t.insert (t.nextCounted given) rowid values
      return (db.putTable t).putTable (← count counters t rowid)

end Database

end ForeignData.Sqlite
