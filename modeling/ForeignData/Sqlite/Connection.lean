import ForeignData.Files.Tree
import ForeignData.Sqlite.Location
import ForeignData.Sqlite.Prepared

/-!
# Connections

A connection reaches the database in a file, or an empty one of its own. A file without content is
an empty database; one with other content than a database can be opened, but nothing can be looked
up in it. A connection keeps the message of its last failure and the number of rows that its last
change has touched.

Others may hold connections to the same file. A statement of theirs that stands on a row keeps the
file, or the table, from being changed, as far as locks are kept.
-/

namespace ForeignData.Sqlite

inductive FileContent where
  | database (db : Database)
  /-- Content of a number of bytes that is no database. -/
  | other (size : Nat)

/-- A statement that someone else holds on a file. -/
structure Holder where
  place : TreePath
  access : AccessMode
  locking : Locking
  /-- The table on a row of which the statement stands. -/
  reads : Option String

/-- Files with databases among them, and the statements that others hold on them. -/
structure Store where
  files : FileTree FileContent
  others : List Holder := []

/-- How the last call on a connection has ended. -/
inductive CallStatus where
  | ok
  /-- A step to a row. -/
  | row
  /-- A step to the end. -/
  | done
  /-- There is no column or placeholder of an index. -/
  | range
  /-- The call came at the wrong time. -/
  | misuse
  | failed
  deriving DecidableEq

def CallStatus.text : CallStatus → String
  | ok => "not an error"
  | row => "another row available"
  | done => "no more rows available"
  | range => "column index out of range"
  | misuse => "bad parameter or other API misuse"
  | failed => "SQL logic error"

structure Connection where
  /-- The path as it was given. -/
  path : String
  /-- The place of the file; a database of its own has none. -/
  place : Option TreePath
  access : AccessMode
  locking : Locking
  /-- The database as the statements that stand on rows have found it. -/
  view : Option Database
  changes : Nat
  status : CallStatus
  /-- The reason of a failure. It is told in the place of every status but a good one, until a
  call drops it. -/
  reason : Option String

/-- What a connection tells of its last call. -/
def Connection.message (c : Connection) : String :=
  match c.status with
  | .ok => c.status.text
  | status => c.reason.getD status.text

/-- Why a file that holds no database cannot be used. -/
def notDatabase : String := "file is not a database"

/-- Why a change through a connection that only reads fails. -/
def readOnlyFailure : String := "attempt to write a readonly database"

def cannotOpen : String := "unable to open database file"

/-- Why a directory cannot be read like a file. -/
def readFailure : String := "disk I/O error"

/-- Why nothing can be done while another one reads or changes a file. -/
def lockedFile : String := "database is locked"

/-- Why a table cannot be changed while another one reads it. -/
def lockedTable (table : String) : String := "database table is locked: " ++ table

/-! ### Opening -/

def Store.isPresent (store : Store) (path : String) : Bool :=
  match store.files.status path with
  | .file | .directory => true
  | .absent | .failure _ => false

/-- Open the file at a place, which is made if there is none and that is allowed. -/
def openFile (store : Store) (location : Location) (place : TreePath) : Checked Store :=
  let access := location.access
  if place = [] then
    .error cannotOpen
  else if (location.permissionsOf.map fun path => !store.isPresent path).getD false then
    .error readFailure
  else if (store.files.content? place).isSome then
    .ok store
  else if store.files.isDirectory place then
    .error (if access = .readOnly then readFailure else cannotOpen)
  else if access = .create ∧ store.files.isDirectory place.dropLast then
    .ok { store with files := store.files.putFile place (.other 0) }
  else
    .error cannotOpen

/-- The access to a file that is left to those who share what they know of it: that of the first. -/
def sharedAccess (store : Store) (place : TreePath) (access : AccessMode) : AccessMode :=
  let sharing := store.others.find? fun h => h.place == place && h.locking == .table
  (sharing.map Holder.access).getD access

/-- The connection to a location, and the files then. -/
def openLocation (store : Store) (path : String) (location : Location) :
    Checked (Connection × Store) :=
  let connection (place : Option TreePath) (access : AccessMode) : Connection :=
    { path, place, access, locking := location.locking, view := none, changes := 0, status := .ok,
      reason := none }
  match location.path with
  | none => .ok (connection none location.access, store)
  | some file => do
    let place := store.files.place file
    let store ← openFile store location place
    let access :=
      if location.locking = .table then sharedAccess store place location.access
      else location.access
    return (connection (some place) access, store)

def connect (mode : OpenMode) (path : String) : ForeignData.Action Store Connection :=
  fun store =>
    let opened :=
      if path.toList.any FileTree.isNul then
        .error "path contains a nul byte"
      else
        Location.ofText mode path >>= openLocation store path
    match opened with
    | .ok (connection, store) => (.ok connection, store)
    | .error reason => (.error (.openFailed path reason), store)

namespace Connection

def database? (c : Connection) (store : Store) : Option Database :=
  match c.view, c.place with
  | some db, _ => some db
  | none, none => some .empty
  | none, some place =>
    match store.files.content? place with
    | some (.database db) => some db
    | some (.other size) => if size = 0 then some .empty else none
    | none => none

/-- Note a change of a connection's database, which its own statements see. -/
def changed (c : Connection) (db : Database) : Connection :=
  { c with view := c.view.map fun _ => db }

/-- The files after a change of a connection's database. -/
def store (c : Connection) (store : Store) (db : Database) : Store :=
  match c.place with
  | none => store
  | some place => { store with files := store.files.putFile place (.database db) }

/-- The tables of the connection's file that others read. -/
def readByOthers (c : Connection) (store : Store) : List String :=
  (store.others.filter fun h => some h.place == c.place).filterMap Holder.reads

/-- Whether the connection has to wait for others, whatever it is about to do. -/
def isShutOut (c : Connection) (store : Store) : Bool :=
  c.locking == .exclusive && !(c.readByOthers store).isEmpty

def describe (c : Connection) : String :=
  "SqliteConnection(" ++ c.path ++ ")"

/-- The program of a text; there may be no statement in it. -/
def program (c : Connection) (store : Store) (sql : String) : Checked (Option Program) := do
  match ← parse sql with
  | none => return none
  | some parsed =>
    if !parsed.statement.usesDatabase then
      some <$> parsed.program .empty
    else if c.isShutOut store then
      throw lockedFile
    else
      match c.database? store with
      | some db => some <$> parsed.program db
      | none => throw notDatabase

def prepare (c : Connection) (store : Store) (sql : String) :
    Except Fault Prepared × Connection :=
  if sql.toList.any FileTree.isNul then
    (.error (.prepareFailed "query contains a nul byte"), c)
  else
    let good := { c with status := .ok, reason := none }
    match c.program store sql with
    | .error reason =>
      (.error (.prepareFailed reason), { c with status := .failed, reason := some reason })
    | .ok none => (.error (.prepareFailed ("empty query: " ++ sql)), good)
    | .ok (some program) => (.ok (.new sql program), good)

end Connection

end ForeignData.Sqlite
