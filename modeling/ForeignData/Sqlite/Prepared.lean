import ForeignData.Sqlite.Program

/-!
# Prepared statements

A prepared statement holds a program, the values of its placeholders, and how far it has come. A
step of a query goes to the first row behind the one that it stands on, in the order of its search,
so that it also sees rows that came in since. A change is made in one step, wholly or not at all. A
statement that has come to its end starts over, unless it gives a plan.
-/

namespace ForeignData.Sqlite

/-- How far a statement has come. -/
inductive RunState where
  | ready
  /-- The statement stands on a row, at a place in the order of its rows. It goes on with the values
  of the placeholders with which it has begun. -/
  | onRow (cells : List Cell) (place : List SortCell) (values : List Cell)
  | done
  | failed (reason : String)

structure Prepared where
  sql : String
  program : Program
  bindings : List Cell
  state : RunState

namespace Prepared

/-- A statement that has not been run, with nothing bound. -/
def new (sql : String) (program : Program) : Prepared where
  sql
  program
  bindings := List.replicate program.placeholders .null
  state := .ready

/-- The values of the placeholders that a step goes by. -/
def values (p : Prepared) : List Cell :=
  match p.state with
  | .onRow _ _ values => values
  | _ => p.bindings

def placeholder (p : Prepared) (number : Nat) : Cell :=
  p.values[number - 1]?.getD .null

def currentRow? (p : Prepared) : Option (List Cell) :=
  match p.state with
  | .onRow cells .. => some cells
  | _ => none

/-- The place in the order of rows behind which a statement goes on. -/
def place? (p : Prepared) : Option (List SortCell) :=
  match p.state with
  | .onRow _ place _ => some place
  | _ => none

/-- Whether there are no rows any more until the statement is rewound. -/
def isSpent (p : Prepared) : Bool :=
  match p.program.operation, p.state with
  | .fixed _ true, .done => true
  | _, _ => false

end Prepared

/-! ### Rows of queries -/

/-- Whether a place is behind another; every place is behind the beginning. -/
def isBehind (place : List SortCell) : Option (List SortCell) → Bool
  | none => true
  | some last => SortCell.compareLists last place == .lt

/-- The item with the first place behind another place, of those that pass a test. -/
def firstBehind {α : Type} (placeOf : α → List SortCell) (test : α → Bool)
    (last : Option (List SortCell)) (items : List α) : Option α :=
  items.foldl (fun best item =>
    let earlier :=
      match best with
      | none => true
      | some b => SortCell.compareLists (placeOf item) (placeOf b) == .lt
    if earlier && isBehind (placeOf item) last && test item then some item else best) none

def TableQuery.next? (q : TableQuery) (db : Database) (placeholder : Nat → Cell)
    (last : Option (List SortCell)) : Option (List Cell × List SortCell) := do
  let t := (← db.lookup? q.relation).table
  let test := fun r => passes (.ofRow placeholder t r) q.condition
  let r ← firstBehind (q.search.orderOf t) test last t.rows
  return (q.items.map (Expr.eval (.ofRow placeholder t r)), q.search.orderOf t r)

def Operation.next? (o : Operation) (db : Database) (placeholder : Nat → Cell)
    (last : Option (List SortCell)) : Option (List Cell × List SortCell) :=
  match o with
  | .fixed rows _ =>
    let numbered := rows.mapIdx fun number row =>
      (row, [({ cell := .integer (Int64.ofNat number) } : SortCell)])
    numbered.find? fun (_, place) => isBehind place last
  | .constants items condition =>
    if last.isNone && passes (.constant placeholder) condition then
      some (items.map (Expr.eval (.constant placeholder)), [])
    else
      none
  | .query q => q.next? db placeholder last
  | .insert .. | .update .. | .delete .. => none

/-- The number of rows that an operation gives at most. -/
def Operation.rowBound (o : Operation) (db : Database) : Nat :=
  match o with
  | .fixed rows _ => rows.length
  | .constants .. => 1
  | .query q => ((db.lookup? q.relation).map fun r => r.table.rows.length).getD 0
  | .insert .. | .update .. | .delete .. => 0

/-! ### Changes -/

/-- The rowid that an expression gives, if there is one. -/
def givenRowid (placeholder : Nat → Cell) : Option (Expr Ref) → Checked (Option Int64)
  | none => .ok none
  | some x => Table.rowidOf (x.eval (.constant placeholder))

def newCells (env : Env) (r : Row) (sets : List (Nat × Expr Ref)) : List Cell :=
  sets.foldl (fun cells (place, x) => cells.set place (x.eval env)) r.cells

/-- Give the rows of a table that pass a condition new values. -/
def updateRows (t : Table) (placeholder : Nat → Cell) (rowid : Option (Expr Ref))
    (sets : List (Nat × Expr Ref)) (condition : Option (Expr Ref)) : Checked (Table × Nat) := do
  let env := Env.ofRow placeholder t
  let rows := t.rows.filter fun r => passes (env r) condition
  let change := fun r => (rowid.map (Expr.eval (env r)), newCells (env r) r sets)
  return (← t.replaceAll change rows, rows.length)

/-- Make a change. Gives the database after it and the number of rows that it touches. -/
def Operation.change (o : Operation) (db : Database) (placeholder : Nat → Cell) :
    Checked (Database × Nat) :=
  match o with
  | .insert table rowid values => do
    let rowid ← givenRowid placeholder rowid
    let db ← db.insertRow table rowid (values.map (Expr.eval (.constant placeholder)))
    return (db, 1)
  | .update table rowid sets condition =>
    match db.table? table with
    | none => .error ("no such table: " ++ table)
    | some t => do
      let (t, count) ← updateRows t placeholder rowid sets condition
      return (db.putTable t, count)
  | .delete table condition =>
    match db.table? table with
    | none => .error ("no such table: " ++ table)
    | some t =>
      let test := fun r => passes (.ofRow placeholder t r) condition
      .ok (db.putTable (t.remove test), (t.rows.filter test).length)
  | .fixed .. | .constants .. | .query _ => .ok (db, 0)

end ForeignData.Sqlite
