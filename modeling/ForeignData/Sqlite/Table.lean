import ForeignData.Sqlite.Syntax

/-!
# Tables

A table has columns, a key, indexes, conditions on rows, and its rows in the order of the key. The
key is the rowid, which one of the columns may stand for, or else the values of some columns.
-/

namespace ForeignData.Sqlite

structure Column where
  name : String
  /-- The declared type as it is shown. -/
  declaredType : String
  affinity : Affinity
  notNull : Bool
  /-- The text of the default value. -/
  defaultText : Option String
  /-- The default value itself. -/
  defaultCell : Cell
  /-- The place of the column in the declared key, from one; zero outside of it. -/
  keyNumber : Nat
  /-- The width of its values, the width of a number being one. -/
  width : Nat
  collation : Collation := .binary

/-- What identifies the rows of a table. -/
inductive TableKey where
  /-- The rowid, and the column that stands for it, if any. -/
  | rowid (column : Option Nat)
  /-- Some columns. An index over them holds the rows. -/
  | columns (places : List Nat)
  deriving DecidableEq

/-- An index over columns, given by their places. -/
structure Index where
  name : String
  columns : List Nat
  unique : Bool
  /-- The rows themselves are kept in the index. -/
  holdsRows : Bool := false
  /-- Those of its columns whose values go down. -/
  descending : List Nat := []

/-- The beginning of the names of indexes that a table brings with it. -/
def ownIndexName : String := "sqlite_autoindex_"

/-- Whether a table has brought an index with it. -/
def Index.isOwn (index : Index) : Bool :=
  ownIndexName.toList.isPrefixOf index.name.toList

/-- A row. Where the key is made of columns, the rowid means nothing. -/
structure Row where
  rowid : Int64
  cells : List Cell

def Row.cell (r : Row) (place : Nat) : Cell :=
  r.cells[place]?.getD .null

def Row.project (r : Row) (places : List Nat) : List Cell :=
  places.map r.cell

/-- A condition that holds of all rows, and how it is told of. -/
structure Check where
  told : String
  condition : Expr Ref

structure Table where
  name : String
  columns : List Column
  key : TableKey
  /-- The indexes, the last one made first. -/
  indexes : List Index
  /-- A rowid that a row has had is not given again. -/
  isCounting : Bool := false
  checks : List Check := []
  /-- The rows, in the order of the key. -/
  rows : List Row

namespace Table

def place? (t : Table) (name : String) : Option Nat :=
  t.columns.findIdx? fun c => sameName c.name name

def hasRowid (t : Table) : Bool :=
  match t.key with
  | .rowid _ => true
  | .columns _ => false

def rowidColumn? (t : Table) : Option Nat :=
  match t.key with
  | .rowid column => column
  | .columns _ => none

/-- The columns of the declared key, in the order of the table. -/
def declaredKey (t : Table) : List Nat :=
  (List.range t.columns.length).filter fun p =>
    (t.columns[p]?.map Column.keyNumber).getD 0 != 0

/-- Whether an index that a table brings with it is that of its declared key. -/
def isKeyIndex (t : Table) (index : Index) : Bool :=
  index.isOwn && index.columns.length == t.declaredKey.length
    && index.columns.all t.declaredKey.contains

def keyPlaces (t : Table) : List Nat :=
  match t.key with
  | .rowid _ => []
  | .columns places => places

/-- The columns whose values an index keeps: its own, and behind them those of the key or, where it
holds the rows, all others. -/
def keptPlaces (t : Table) (index : Index) : List Nat :=
  let others := if index.holdsRows then List.range t.columns.length else t.keyPlaces
  index.columns ++ others.filter fun p => !index.columns.contains p

/-- The columns whose values a query takes from an index. Of the indexes that a table brings with
it, these are their own ones only. -/
def coveredPlaces (t : Table) (index : Index) : List Nat :=
  if index.isOwn then index.columns else t.keptPlaces index

/-- How the texts of a column are compared. -/
def collation (t : Table) (place : Nat) : Collation :=
  (t.columns[place]?.map Column.collation).getD .binary

def indexOrder (t : Table) (index : Index) (r : Row) : List SortCell :=
  index.columns.map fun p =>
    { cell := r.cell p, descending := index.descending.contains p, collation := t.collation p }

/-- The cells by which a row is found, and by which rows are ordered. -/
def keyOrder (t : Table) (r : Row) : List SortCell :=
  match t.key, t.indexes.find? Index.holdsRows with
  | .rowid _, _ => [{ cell := .integer r.rowid }]
  | .columns _, some index => t.indexOrder index r
  | .columns places, none =>
    places.map fun p => { cell := r.cell p, collation := t.collation p }

/-- The names that the rowid goes by where no column has them. -/
def rowidNames : List String := ["rowid", "_rowid_", "oid"]

def isRowidName (name : String) : Bool :=
  rowidNames.contains (lowerAscii name)

def affinity (t : Table) (place : Nat) : Affinity :=
  (t.columns[place]?.map Column.affinity).getD .blob

end Table

end ForeignData.Sqlite
