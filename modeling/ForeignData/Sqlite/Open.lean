import ForeignData.Engine
import ForeignData.Sqlite.Connection
import ForeignData.Text.Inspect

/-!
# Open statements

A statement together with the connection that it keeps open. It is bound, stepped and rewound, and
the columns of its row are read. A statement that has been stepped takes no values until it is
rewound; one that has failed says so once more when it is rewound.

Together these make an engine.
-/

namespace ForeignData.Sqlite

structure OpenStatement where
  prepared : Prepared
  connection : Connection

namespace OpenStatement

def inState (s : OpenStatement) (state : RunState) : OpenStatement :=
  { s with prepared := { s.prepared with state } }

/-- Note how a call has ended. The reason of a failure stays. -/
def ended (s : OpenStatement) (status : CallStatus) : OpenStatement :=
  { s with connection := { s.connection with status } }

/-- Note how a call has ended, with the reason if it has failed. -/
def endedFor (s : OpenStatement) (status : CallStatus) (reason : Option String) : OpenStatement :=
  { s with connection := { s.connection with status, reason } }

/-- An action on a statement that leaves the files alone. -/
def act {α : Type} (f : OpenStatement → Except Fault α × OpenStatement) :
    ForeignData.Action (OpenStatement × Store) α :=
  fun (s, store) =>
    let (result, s) := f s
    (result, (s, store))

/-! ### Binding -/

/-- The greatest index that can be asked for. -/
def maxIndex : Nat := 0x7fffffff

/-- Whether a statement has not been stepped since it was rewound. -/
def isReady (s : OpenStatement) : Bool :=
  match s.prepared.state with
  | .ready => true
  | _ => false

/-- Give a placeholder a value. -/
def bind (call : BindCall) : ForeignData.Action (OpenStatement × Store) Unit :=
  act fun s =>
    if maxIndex < call.index then
      (.error (.misuse (.parameterIndex call.index)), s)
    else if !s.isReady then
      (.error (.bindFailed CallStatus.misuse.text), s.endedFor .misuse none)
    else if call.index = 0 ∨ s.prepared.program.placeholders < call.index then
      (.error (.bindFailed CallStatus.range.text), s.endedFor .range none)
    else
      let bindings := s.prepared.bindings.set (call.index - 1) (.ofBound call.value)
      (.ok (), { s with prepared := { s.prepared with bindings } }.ended .ok)

/-- Take the values of all placeholders away. -/
def clearBindings : ForeignData.Action (OpenStatement × Store) Unit :=
  act fun s =>
    let bindings := List.replicate s.prepared.program.placeholders .null
    (.ok (), { s with prepared := { s.prepared with bindings } })

/-! ### Running -/

/-- Put a statement into a state in which it stands on no row. -/
def inRest (s : OpenStatement) (state : RunState) : OpenStatement :=
  { s with prepared := { s.prepared with state }, connection := { s.connection with view := none } }

/-- Rewind a statement. The values of its placeholders stay. -/
def rewind (s : OpenStatement) : OpenStatement :=
  match s.prepared.state with
  | .ready => s
  | .failed reason => (s.inRest .ready).endedFor .failed (some reason)
  | .onRow .. | .done => (s.inRest .ready).endedFor .ok none

/-- Rewind a statement. One that has failed says so once more. -/
def reset : ForeignData.Action (OpenStatement × Store) Unit :=
  act fun s =>
    match s.prepared.state with
    | .failed reason => (.error (.stepFailed reason), s.rewind)
    | _ => (.ok (), s.rewind)

/-- A statement that starts over if it has come to its end or has failed. -/
def started (s : OpenStatement) : OpenStatement :=
  match s.prepared.state with
  | .done => if s.prepared.isSpent then s else s.rewind
  | .failed _ => s.rewind
  | .ready | .onRow .. => s

def fail (s : OpenStatement) (reason : String) : Except Fault StepResult × OpenStatement :=
  (.error (.stepFailed reason), (s.inRest (.failed reason)).endedFor .failed (some reason))

/-- A statement whose change has touched a number of rows. -/
def countChanges (s : OpenStatement) (changes : Nat) : OpenStatement :=
  { s with connection := { s.connection with changes } }

/-- The database after a change, and the number of rows that it touches. A change is refused before
it begins where nothing may be changed or where the table is read by others, and at its end where
the file is. -/
def change (s : OpenStatement) (store : Store) (db : Database) : Checked (Database × Nat) := do
  let c := s.connection
  let operation := s.prepared.program.operation
  let readers := c.readByOthers store
  if c.access = .readOnly then
    throw readOnlyFailure
  if c.isShutOut store then
    throw lockedFile
  if let some table := operation.changedTable? then
    if c.locking = .table ∧ table ∈ readers then
      throw (lockedTable table)
  let outcome ← operation.change db s.prepared.placeholder
  if c.locking = .file ∧ readers ≠ [] then
    throw lockedFile
  return outcome

def stepChange (s : OpenStatement) (store : Store) (db : Database) :
    Except Fault StepResult × OpenStatement × Store :=
  match s.change store db with
  | .error reason =>
    let (result, s) := (s.countChanges 0).fail reason
    (result, s, store)
  | .ok (db, changes) =>
    let s := ((s.countChanges changes).inState .done).ended .done
    (.ok .done, { s with connection := s.connection.changed db }, s.connection.store store db)

/-- Go to the next row. -/
def stepQuery (s : OpenStatement) (db : Database) : Except Fault StepResult × OpenStatement :=
  let operation := s.prepared.program.operation
  let next :=
    if s.prepared.isSpent then none
    else operation.next? db s.prepared.placeholder s.prepared.place?
  match next with
  | some (cells, place) =>
    let s := (s.inState (.onRow cells place s.prepared.values)).ended .row
    let view := if operation.readTable?.isSome then some db else s.connection.view
    (.ok .row, { s with connection := { s.connection with view } })
  | none => (.ok .done, (s.inRest .done).ended .done)

def step : ForeignData.Action (OpenStatement × Store) StepResult :=
  fun (s, store) =>
    let s := s.started
    let db := (s.connection.database? store).getD .empty
    let operation := s.prepared.program.operation
    if operation.isChange then
      s.stepChange store db
    else if operation.readTable?.isSome && s.connection.isShutOut store then
      let (result, s) := s.fail lockedFile
      (result, s, store)
    else
      let (result, s) := s.stepQuery db
      (result, s, store)

/-- A statement as others see it, if it is one on a file. -/
def holder? (s : OpenStatement) : Option Holder :=
  s.connection.place.map fun place =>
    { place, access := s.connection.access, locking := s.connection.locking,
      reads := s.prepared.currentRow?.bind fun _ => s.prepared.program.operation.readTable? }

/-! ### Reading -/

def row (s : OpenStatement) : ResultRow :=
  (s.prepared.currentRow?.getD []).map Cell.toStored

/-- Read a column. There is only null where there is no such column or no row. Of the number of a
column only the last 32 bits count. -/
def readColumn (column : Nat) : ForeignData.Action (OpenStatement × Store) StoredValue :=
  act fun s =>
    match s.row[column % UInt32.size]? with
    | some value => (.ok value, s)
    | none => (.ok .null, s.endedFor .range none)

/-- The number of rows that are expected, where a table is gone through. -/
def estimate (s : OpenStatement) : Except Fault Binary64 :=
  match s.prepared.program.estimate with
  | some rows => .ok rows.toRows
  | none => .error (.noEstimate ("no scan status for query: " ++ s.prepared.sql))

/-- The number of rows that a statement gives at most. -/
def rowBound (s : OpenStatement) (store : Store) : Nat :=
  s.prepared.program.operation.rowBound ((s.connection.database? store).getD .empty)

def describe (s : OpenStatement) : String :=
  "SqliteStatement \x7b conn: " ++ s.connection.describe ++ ", sql: "
    ++ inspectText s.prepared.sql ++ " \x7d"

end OpenStatement

def prepare (c : Connection) (sql : String) : ForeignData.Action Store OpenStatement := do
  match c.prepare (← get) sql with
  | (.ok prepared, connection) => return { prepared, connection }
  | (.error fault, _) => throw fault

/-- The engine over files with databases. -/
def engine : Engine Store Connection OpenStatement where
  connect := connect
  prepare := prepare
  bind := OpenStatement.bind
  clearBindings := OpenStatement.clearBindings
  step := OpenStatement.step
  reset := OpenStatement.reset
  width s := s.prepared.program.width
  row := OpenStatement.row
  changes s := s.connection.changes
  estimate := OpenStatement.estimate
  rowsLeft := fun (s, store) => s.rowBound store
  besides statements store := { store with others := statements.filterMap OpenStatement.holder? }

end ForeignData.Sqlite
