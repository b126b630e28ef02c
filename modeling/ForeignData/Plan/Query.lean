import ForeignData.Plan.Clause
import ForeignData.Sql.Quote
import ForeignData.Stored.RowShape

/-!
# Queries on a remote table

A remote query asks for some columns of one table, for the key of each row if it is wanted, and for
those rows only that pass its filters. Its text is what SQLite gets to see; the values that the
filters take at runtime stand there as numbered placeholders.
-/

namespace ForeignData

/-- The name by which SQLite knows the key of a row. -/
def rowidName : String := "rowid"

abbrev QueryParam := HostType × HostValue

structure RemoteQuery where
  columns : List HostColumn
  fetchRowid : Bool
  table : String
  filters : List Clause

namespace RemoteQuery

/-- The query for given attributes of a table, its columns in the order of the table. -/
def ofAttrs (table : HostTable) (attrs : AttrSet) (remoteName : String) (fetchRowid : Bool)
    (filters : List Clause) : RemoteQuery where
  columns := table.columns.filter fun c => attrs.contains c.number
  fetchRowid
  table := remoteName
  filters

/-- The attributes that the result columns hold, without the key. -/
def retrieved (q : RemoteQuery) : List AttrNumber :=
  q.columns.map HostColumn.number

/-- The values that the filters take, in the order of the placeholders. -/
def params (q : RemoteQuery) : List QueryParam :=
  q.filters.filterMap Clause.param

/-- The result columns as they are asked for. -/
def items (q : RemoteQuery) : List String :=
  (q.columns.map fun c => quoteRemoteName c.name) ++ if q.fetchRowid then [rowidName] else []

/-- The result columns, or null if there are none. -/
def itemsText (q : RemoteQuery) : String :=
  match q.items with
  | [] => "NULL"
  | items => ", ".intercalate items

/-- One filter; `count` placeholders stand before it. -/
def filterText (count : Nat) (filter : Clause) : String :=
  match filter.param with
  | none => "(" ++ filter.sql ++ ")"
  | some _ => "(" ++ filter.sql ++ " ?" ++ natString (count + 1) ++ ")"

/-- Filters one behind the other, each led by its word. -/
def filtersText : Nat → String → List Clause → String
  | _, _, [] => ""
  | count, lead, filter :: filters =>
    let next := if filter.param.isSome then count + 1 else count
    lead ++ filterText count filter ++ filtersText next " AND " filters

def text (q : RemoteQuery) : String :=
  "SELECT " ++ q.itemsText ++ " FROM " ++ quoteRemoteName q.table
    ++ filtersText 0 " WHERE " q.filters

end RemoteQuery

/-! ### Plans -/

/-- What is kept of a query for its execution. -/
structure ScanPlan where
  query : String
  retrieved : List AttrNumber
  paramCount : UInt64
  fetchRowid : Bool
  deriving DecidableEq

def RemoteQuery.plan (q : RemoteQuery) : ScanPlan where
  query := q.text
  retrieved := q.retrieved
  paramCount := UInt64.ofNat q.params.length
  fetchRowid := q.fetchRowid

def ScanPlan.shape (plan : ScanPlan) (table : HostTable) (policy : ConversionPolicy) :
    Except Fault RowShape :=
  RowShape.new table plan.retrieved policy plan.fetchRowid

end ForeignData
