import ForeignData.Engine
import ForeignData.Sqlite.Rows
import ForeignData.Text.Blank
import ForeignData.Text.Hex
import ForeignData.Text.Split

/-!
# Locations of databases

A database is named by the path of its file, or by such a path in a URI. A URI begins with its
scheme; behind the path come options and a fragment, which is not looked at. Any byte of a path, of
the name of an option or of its value may be written in hexadecimal behind a percent sign; a zero
among these bytes ends what it stands in. Options say how the file is accessed and how those who
access it at the same time keep out of each other's way.
-/

namespace ForeignData.Sqlite

/-- What a connection may do with a file. -/
inductive AccessMode where
  | readOnly
  | readWrite
  /-- Read, write, and make the file if there is none. -/
  | create
  /-- There is no file. -/
  | memory
  deriving DecidableEq

/-- How much a mode permits. -/
def AccessMode.rank : AccessMode → Nat
  | readOnly => 1
  | readWrite => 2
  | create => 3
  | memory => 4

/-- Whether a mode can be exchanged for another: for one that permits no more, or for no file. -/
def AccessMode.admits (limit asked : AccessMode) : Bool :=
  asked == .memory || asked.rank ≤ limit.rank

def AccessMode.ofWord? : String → Option AccessMode
  | "ro" => some readOnly
  | "rw" => some readWrite
  | "rwc" => some create
  | "memory" => some memory
  | _ => none

def AccessMode.ofOpenMode : OpenMode → AccessMode
  | .readOnly => readOnly
  | .readWrite => readWrite

/-- How connections keep out of each other's way. -/
inductive Locking where
  /-- They do not. -/
  | none
  /-- Any number of connections read a file, and one changes it while no other reads. -/
  | file
  /-- One connection at a time reads or changes a file. -/
  | exclusive
  /-- Connections share what they know of a file; they may read one table while another one is
  changed. -/
  | table
  deriving DecidableEq

structure Location where
  /-- The path of the file; a database of the connection's own has none. -/
  path : Option String
  access : AccessMode
  locking : Locking
  /-- The path of a file whose permissions a new file would get. It has to be there in any case. -/
  permissionsOf : Option String := none

/-! ### URIs -/

def uriScheme : String := "file:"

/-- The byte that two hexadecimal digits write. -/
def hexByte? (high low : Char) : Option UInt8 := do
  return UInt8.ofNat (16 * (← hexValue? high) + (← hexValue? low))

def partBytes : List Char → List UInt8
  | [] => []
  | c :: s =>
    let plain := (bytesOfText (String.ofList [c])).data.toList
    match c, s with
    | '%', high :: low :: rest =>
      match hexByte? high low with
      | some b => if b = 0 then [] else b :: partBytes rest
      | none => plain ++ partBytes (high :: low :: rest)
    | _, s => plain ++ partBytes s
termination_by s => s.length

def partText (s : List Char) : String :=
  lossyText ⟨(partBytes s).toArray⟩

/-- The hosts that a URI may name. -/
def localHosts : List String := ["", "localhost"]

/-- What is behind the host of a URI, if it names one. -/
def dropHost (s : List Char) : Checked (List Char) :=
  match s with
  | '/' :: '/' :: rest =>
    let host := String.ofList (rest.takeWhile (· != '/'))
    if localHosts.contains host then .ok (rest.dropWhile (· != '/'))
    else .error ("invalid uri authority: " ++ host)
  | s => .ok s

/-- An option and its value, which is empty if it is left out; none if the option has no name. -/
def uriOption? (s : List Char) : Option (String × String) :=
  let name := partText (s.takeWhile (· != '='))
  if name = "" then none else some (name, partText ((s.dropWhile (· != '=')).drop 1))

/-- The path of a URI behind its host, and its options in order. -/
def uriParts (s : List Char) : String × List (String × String) :=
  let s := s.takeWhile (· != '#')
  let options := (s.dropWhile (· != '?')).drop 1
  (partText (s.takeWhile (· != '?')), (splitAtMark '&' options).filterMap uriOption?)

/-! ### Options -/

/-- Systems of files and locks. -/
inductive FileSystem where
  | standard
  /-- A lock is a file of its own. -/
  | lockFiles
  | withoutLocks
  | memory
  deriving DecidableEq

def FileSystem.ofName? : String → Option FileSystem
  | "unix" | "unix-excl" => some standard
  | "unix-dotfile" => some lockFiles
  | "unix-none" => some withoutLocks
  | "memdb" => some memory
  | _ => none

/-- What options have settled so far. -/
structure UriSettings where
  access : AccessMode
  isShared : Bool
  /-- The name of the system of files, if one is given. -/
  system : Option String

/-- Settle an option. Options that mean nothing here are allowed. -/
def UriSettings.settle (u : UriSettings) : String × String → Checked UriSettings
  | ("vfs", value) => .ok { u with system := some value }
  | ("cache", value) =>
    if value = "shared" then .ok { u with isShared := true }
    else if value = "private" then .ok { u with isShared := false }
    else .error ("no such cache mode: " ++ value)
  | ("mode", value) =>
    match AccessMode.ofWord? value with
    | none => .error ("no such access mode: " ++ value)
    | some access =>
      if u.access.admits access then .ok { u with access }
      else .error ("access mode not allowed: " ++ value)
  | _ => .ok u

def UriSettings.fileSystem (u : UriSettings) : Checked FileSystem :=
  match u.system with
  | none => .ok .standard
  | some name =>
    match FileSystem.ofName? name with
    | some system => .ok system
    | none => .error ("no such vfs: " ++ name)

/-- The number that a text begins with, in decimal or in hexadecimal. -/
def leadingNumber (s : List Char) : Nat :=
  let decimal := digitsValue (spanDigits s).1
  match s with
  | '0' :: x :: digits =>
    if x = 'x' ∨ x = 'X' then
      (digits.map hexValue?).takeWhile Option.isSome |>.foldl (fun n d => 16 * n + d.getD 0) 0
    else
      decimal
  | _ => decimal

/-- Whether the value of an option says yes: a word for it, or a number whose last byte is not
zero. A number of more than 31 bits counts as zero. -/
def isAffirmed (value : String) : Bool :=
  match value.toList with
  | [] => false
  | c :: s =>
    if c.isDigit then
      let n := leadingNumber (c :: s)
      n ≤ Int32.maxValue.toInt.toNat && n % UInt8.size != 0
    else
      ["on", "yes", "true"].contains (lowerAscii value)

/-- Whether an option says yes where it stands first. -/
def isAffirmedOption (options : List (String × String)) (name : String) : Bool :=
  ((options.lookup name).map isAffirmed).getD false

/-! ### Locations -/

/-- The paths of databases that belong to one connection only. -/
def privatePaths : List String := ["", ":memory:"]

namespace Location

def ofPath (access : AccessMode) (path : String) : Location where
  path := if privatePaths.contains path then none else some path
  access
  locking := .file

/-- The location of a URI behind its scheme. A file that is not to change while it is open is only
read. -/
def ofUri (access : AccessMode) (s : List Char) : Checked Location := do
  let (path, options) := uriParts (← dropHost s)
  let settings ← options.foldlM UriSettings.settle { access, isShared := false, system := none }
  let system ← settings.fileSystem
  let fixed := isAffirmedOption options "immutable"
  let unlocked := fixed || isAffirmedOption options "nolock" || system == .withoutLocks
  let isPrivate := privatePaths.contains path || settings.access == .memory || system == .memory
  return {
    path := if isPrivate then none else some path
    access := if fixed then .readOnly else settings.access
    locking :=
      if settings.isShared then .table
      else if unlocked then .none
      else if system = .lockFiles then .exclusive
      else .file
    permissionsOf := options.lookup "modeof" }

def ofText (mode : OpenMode) (s : String) : Checked Location :=
  let scheme := uriScheme.toList
  if scheme.isPrefixOf s.toList then ofUri (.ofOpenMode mode) (s.toList.drop scheme.length)
  else .ok (ofPath (.ofOpenMode mode) s)

end Location

end ForeignData.Sqlite
