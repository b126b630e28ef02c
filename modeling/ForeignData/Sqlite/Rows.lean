import ForeignData.Sqlite.Expression

/-!
# Rows of a table

Rows are put into a table, given new values and taken out, under the constraints of the table. A row
without a key of its own is put behind all others. A refusal says which constraint it is that fails,
and changes nothing.
-/

namespace ForeignData.Sqlite

namespace Table

def placeNames (t : Table) (places : List Nat) : String :=
  ", ".intercalate (places.map fun p => t.name ++ "." ++ ((t.columns[p]?.map Column.name).getD ""))

/-! ### Constraints -/

/-- Refuse null in columns that do not take it. The column that stands for the rowid is no matter
here. -/
def checkNotNull (t : Table) (cells : List Cell) : Checked Unit :=
  let bad := (List.range t.columns.length).find? fun p =>
    (t.columns[p]?.map Column.notNull).getD false && cells[p]?.getD .null == .null
      && t.rowidColumn? != some p
  match bad with
  | some p => .error ("NOT NULL constraint failed: " ++ t.placeNames [p])
  | none => .ok ()

/-- Refuse a row that one of some conditions does not hold of. Null is no refusal. -/
def checkConditions (t : Table) (r : Row) : List Check → Checked Unit
  | [] => .ok ()
  | check :: checks =>
    if (check.condition.eval (.ofRow (fun _ => .null) t r)).truth = some false then
      .error ("CHECK constraint failed: " ++ check.told)
    else
      t.checkConditions r checks

/-- What is said of a rowid that is there already. -/
def rowidName (t : Table) : String :=
  match t.rowidColumn? with
  | some p => t.placeNames [p]
  | none => t.name ++ ".rowid"

def checkRowid (t : Table) (others : List Row) (r : Row) : Checked Unit :=
  if t.hasRowid && others.any fun o => o.rowid == r.rowid then
    .error ("UNIQUE constraint failed: " ++ t.rowidName)
  else
    .ok ()

/-- Refuse values of an index that another row has; null is no such value. -/
def checkIndex (t : Table) (others : List Row) (r : Row) (index : Index) : Checked Unit :=
  let cells := t.indexOrder index r
  if index.unique && !(r.project index.columns).contains .null
      && others.any fun o => SortCell.compareLists (t.indexOrder index o) cells == .eq then
    .error ("UNIQUE constraint failed: " ++ t.placeNames index.columns)
  else
    .ok ()

/-- Refuse values of indexes that another row has. -/
def checkIndexes (t : Table) (others : List Row) (r : Row) : List Index → Checked Unit
  | [] => .ok ()
  | index :: indexes => do
    t.checkIndex others r index
    t.checkIndexes others r indexes

def insertSorted (t : Table) (r : Row) : List Row → List Row
  | [] => [r]
  | o :: rows =>
    if SortCell.compareLists (t.keyOrder r) (t.keyOrder o) == .lt then r :: o :: rows
    else o :: t.insertSorted r rows

/-- Add a row to others, if the constraints allow it. -/
def addRow (t : Table) (others : List Row) (r : Row) : Checked (List Row) := do
  t.checkNotNull r.cells
  t.checkConditions r t.checks
  t.checkRowid others r
  t.checkIndexes others r t.indexes
  return t.insertSorted r others

/-! ### Keys -/

/-- The rowid behind all others; where there is none, the least that is free. -/
def nextRowid (t : Table) : Int64 :=
  match t.rows.getLast? with
  | none => 1
  | some last =>
    if last.rowid < Int64.maxValue then
      last.rowid + 1
    else
      let free := (List.range (t.rows.length + 1)).find? fun i =>
        !t.rows.any fun r => r.rowid == Int64.ofNat (i + 1)
      Int64.ofNat (free.getD 0 + 1)

/-- The rowid behind all others and behind the greatest that has been given, if there is one. -/
def nextCounted (t : Table) (given : Int64) : Checked Int64 :=
  let last := t.rows.getLast?.map Row.rowid
  let next := (last.map (· + 1)).getD 1
  if last = some Int64.maxValue ∨ given = Int64.maxValue then .error "database or disk is full"
  else .ok (if next < given + 1 then given + 1 else next)

/-- The rowid that a cell gives: none for null, and only integers otherwise. -/
def rowidOf (c : Cell) : Checked (Option Int64) :=
  match c.textToNumber.toIntegral with
  | .null => .ok none
  | .integer v => .ok (some v)
  | _ => .error "datatype mismatch"

/-- A row of given values with what the columns make of them: under a rowid if one is given, and
under the next one otherwise. -/
def rowOf (t : Table) (next : Checked Int64) (rowid : Option Int64) (values : List Cell) :
    Checked Row := do
  let cells := values.zipWith (fun v (c : Column) => c.affinity.store v) t.columns
  match t.rowidColumn? with
  | none => return { rowid := ← rowid.elim next pure, cells }
  | some p =>
    let own ← rowidOf (values[p]?.getD .null)
    let rowid ← (rowid.or own).elim next pure
    return { rowid, cells := cells.set p (.integer rowid) }

/-! ### Changes -/

/-- Insert a row of values, one for each column: under a rowid if one is given, and under the next
one otherwise. Gives the rowid too. -/
def insert (t : Table) (next : Checked Int64) (rowid : Option Int64) (values : List Cell) :
    Checked (Table × Int64) := do
  let r ← t.rowOf next rowid values
  return ({ t with rows := ← t.addRow t.rows r }, r.rowid)

/-- The row that takes the place of another, under a new rowid if one is given. A column that stands
for the rowid gives a new one too. -/
def replacement (t : Table) (old : Row) (rowid : Option Cell) (values : List Cell) :
    Checked Row := do
  let own :=
    match t.rowidColumn? with
    | some p => values[p]?.getD .null
    | none => .integer old.rowid
  match ← rowidOf (rowid.getD own) with
  | none => throw "datatype mismatch"
  | some rowid => t.rowOf (pure rowid) (some rowid) values

/-- Put a new rowid and new values in the place of a row's. -/
def replace (t : Table) (old : Row) (rowid : Option Cell) (values : List Cell) :
    Checked Table := do
  let r ← t.replacement old rowid values
  let key := t.keyOrder old
  let others := t.rows.filter fun o => SortCell.compareLists (t.keyOrder o) key != .eq
  return { t with rows := ← t.addRow others r }

/-- Put new rowids and values in the place of some rows', one after the other. -/
def replaceAll (t : Table) (f : Row → Option Cell × List Cell) : List Row → Checked Table
  | [] => .ok t
  | r :: rows => do
    let t ← t.replace r (f r).1 (f r).2
    t.replaceAll f rows

/-- Take out the rows that pass a test. -/
def remove (t : Table) (test : Row → Bool) : Table :=
  { t with rows := t.rows.filter fun r => !test r }

end Table

end ForeignData.Sqlite
