import ForeignData.Stored.Decoding

/-!
# Host rows from result rows

A row shape says which column of the host's table each result column fills, and what happens to a
value that its column cannot take. Columns that no result column fills are null. If the key of the
row is fetched it is one more result column at the end.
-/

namespace ForeignData

/-- What to do with a value that its column cannot take. -/
inductive ConversionPolicy where
  | error
  /-- Put null in its place, unless the column is declared not null. -/
  | nullIfNullable
  deriving DecidableEq

abbrev HostRow := List HostValue

/-- How result rows become host rows. -/
structure RowShape where
  columns : List HostColumn
  /-- The place in `columns` that each result column fills. -/
  retrieved : List (Fin columns.length)
  policy : ConversionPolicy
  fetchRowid : Bool

namespace RowShape

/-- The places of attributes in a table, in order; the first unknown one is a fault. -/
def places (table : HostTable) :
    List AttrNumber → Except Fault (List (Fin table.columns.length))
  | [] => .ok []
  | n :: ns =>
    match table.position? n with
    | none => .error (.unknownAttribute n)
    | some i => (places table ns).map (i :: ·)

/-- The shape of rows that hold the given attributes of a table. -/
def new (table : HostTable) (retrieved : List AttrNumber) (policy : ConversionPolicy)
    (fetchRowid : Bool) : Except Fault RowShape :=
  (places table retrieved).map fun retrieved =>
    { columns := table.columns, retrieved, policy, fetchRowid }

/-- The number of result columns. -/
def width (shape : RowShape) : Nat :=
  shape.retrieved.length + if shape.fetchRowid then 1 else 0

def convertColumn (policy : ConversionPolicy) (column : HostColumn) (v : StoredValue) :
    Except Fault HostValue := do
  match ← v.decodeAs column.type with
  | some none => if column.notNull then throw (.nullViolation column.name) else return none
  | some (some s) => return some s
  | none =>
    if policy = .nullIfNullable ∧ column.notNull = false then
      return none
    else
      throw (.invalidConversion v column.type column.name)

/-- Fill the places one after the other from the values that are left. -/
def fill (columns : List HostColumn) (policy : ConversionPolicy) :
    List (Fin columns.length) → ResultRow → HostRow → Except Fault HostRow
  | [], _, out => .ok out
  | i :: places, row, out => do
    let v ← convertColumn policy columns[i] (row.headD .null)
    fill columns policy places row.tail (out.set i v)

/-- The host row of a result row of a given width; values past the end of the row are null. -/
def hostRow (shape : RowShape) (row : ResultRow) (rowWidth : Nat) : Except Fault HostRow :=
  if rowWidth = shape.width then
    fill shape.columns shape.policy shape.retrieved row
      (List.replicate shape.columns.length none)
  else
    .error (.columnCount shape.width rowWidth)

def rowid (shape : RowShape) (row : ResultRow) : Except Fault (Option Int64) :=
  if shape.fetchRowid then
    match row.value shape.retrieved.length with
    | .integer key => .ok (some key)
    | v => .error (.misuse (.rowidNotInteger v))
  else
    .ok none

end RowShape

end ForeignData
