import ForeignData.Sqlite.Constraint

/-!
# Definitions of tables

A column is declared by its name, its type and its constraints. Keys, uniqueness and conditions may
also be declared of the whole table. Keys and uniqueness bring indexes with them, and the type of a
key may make its column stand for the rowid.
-/

namespace ForeignData.Sqlite

structure ColumnDefinition where
  name : String
  declaredType : String
  constraints : String

/-- The declaration that the values of some columns together are unique. -/
structure TableConstraint where
  isKey : Bool
  columns : List String

structure TableDefinition where
  name : String
  columns : List ColumnDefinition
  constraints : List TableConstraint := []
  checks : List CheckDefinition := []
  withoutRowid : Bool

structure IndexDefinition where
  name : String
  table : String
  columns : List String
  unique : Bool

/-! ### Tables -/

def ColumnDefinition.column (d : ColumnDefinition) (c : Constraints) (keyNumber : Nat) :
    Column where
  name := d.name
  declaredType := shownType d.declaredType
  affinity := .ofDeclared (bareType d.declaredType)
  notNull := c.notNull
  defaultText := c.defaultText
  defaultCell := c.defaultCell
  keyNumber
  width := typeWidth (bareType d.declaredType)
  collation := c.collation

/-- The indexes that keys and uniqueness bring with them, in order. The one of a key that identifies
the rows holds them. -/
def ownIndexes (table : String) (key descending : List Nat) : Nat → List (List Nat) → List Index
  | _, [] => []
  | number, columns :: groups =>
    { name := ownIndexName ++ table ++ "_" ++ natString number, columns, unique := true,
      holdsRows := columns == key, descending }
      :: ownIndexes table key descending (number + 1) groups

def placesWhere {α : Type} (items : List α) (test : α → Bool) : List Nat :=
  (List.range items.length).filter fun i => (items[i]?.map test).getD false

/-- The declared type of a column that can stand for the rowid. -/
def rowidType : String := "INTEGER"

namespace TableDefinition

def columnConstraints (d : TableDefinition) : List Constraints :=
  d.columns.map fun c => Constraints.ofText c.constraints

def placesOf (d : TableDefinition) (c : TableConstraint) : List Nat :=
  c.columns.filterMap fun name => d.columns.findIdx? fun column => sameName column.name name

def key (d : TableDefinition) : List Nat :=
  match placesWhere d.columnConstraints Constraints.isKey with
  | [] => ((d.constraints.find? TableConstraint.isKey).map d.placesOf).getD []
  | places => places

/-- The columns whose values are unique together. -/
def uniqueGroups (d : TableDefinition) : List (List Nat) :=
  let unique := placesWhere d.columnConstraints fun c => c.isKey || c.isUnique
  (unique.map fun place => [place]) ++ d.constraints.map d.placesOf

/-- The columns that are a key whose values go down. -/
def descending (d : TableDefinition) : List Nat :=
  placesWhere d.columnConstraints Constraints.isDescending

/-- The column that can stand for the rowid: the key, if it is one column of the right type, and its
values go up. -/
def rowidPlace? (d : TableDefinition) : Option Nat :=
  match d.key with
  | [place] => do
    let column ← d.columns[place]?
    if sameName (shownType column.declaredType) rowidType && !d.descending.contains place then
      some place
    else
      none
  | _ => none

/-- What a name in a condition on rows stands for. -/
def meaning (d : TableDefinition) (mark : Option Char) (s : String) : Checked (Expr Ref) :=
  match d.columns.findIdx? fun c => sameName c.name s with
  | some place => .ok (.ref (.column place))
  | none =>
    if !d.withoutRowid && Table.isRowidName s then .ok (.ref .rowid) else resolveOther mark s

/-- The conditions on rows, those of columns first. What is not understood is no condition. -/
def conditions (d : TableDefinition) : List Check :=
  (d.columnConstraints.flatMap Constraints.checks ++ d.checks).filterMap fun check => do
    let x ← parseExpr? check.text.toList
    let condition ← (x.resolveBy d.meaning).toOption
    return { told := check.told, condition }

/-- An empty table of a declaration. The index of a key that could stand for the rowid is made
last, if at all. -/
def table (d : TableDefinition) : Table :=
  let key := d.key
  let number place := (key.findIdx? (· == place)).elim 0 (· + 1)
  let declared := d.columns.zip d.columnConstraints
  let columns := declared.mapIdx fun place (column, c) => column.column c (number place)
  let rowidGroup := d.rowidPlace?.toList
  let others := (d.uniqueGroups.filter (· != rowidGroup)).eraseDups
  let descending := d.descending
  if d.withoutRowid then
    let groups := if rowidGroup.isEmpty then others else others ++ [rowidGroup]
    { name := d.name
      columns := columns.map fun c => if c.keyNumber = 0 then c else { c with notNull := true }
      key := .columns key
      indexes := (ownIndexes d.name key descending 1 groups).reverse
      checks := d.conditions
      rows := [] }
  else
    { name := d.name, columns, key := .rowid d.rowidPlace?,
      indexes := (ownIndexes d.name [] descending 1 others).reverse, rows := []
      isCounting := d.columnConstraints.any Constraints.isCounting, checks := d.conditions }

end TableDefinition

def Table.addIndex (t : Table) (d : IndexDefinition) : Table :=
  { t with indexes :=
      { name := d.name, columns := d.columns.filterMap t.place?, unique := d.unique }
        :: t.indexes }

end ForeignData.Sqlite
