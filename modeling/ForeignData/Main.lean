import ForeignData.Command.Outcome
import ForeignData.Sqlite.Image
import ForeignData.Sqlite.Open

/-!
# The program

A command line is about one database at most. Its file is read first; the command line is carried
out on what has been found, and what it writes is passed on.
-/

namespace ForeignData.Command

/-- What a failure to read a file says of its path. A file that may not be read is one still. -/
def statusOfError : IO.Error → FileStatus
  | .noFileOrDirectory .. => .absent
  | .inappropriateType .. => .directory
  | .permissionDenied .. => .file
  | .invalidArgument .. => .failure FileTree.nameTooLong
  | error => .failure error.toString

/-- The files that an engine finds where there are none. -/
def noFiles : Sqlite.Store where
  files := .empty []

/-- What is at a path, together with the files with that one added. -/
def readFile (store : Sqlite.Store) (path : String) : IO (FileStatus × Sqlite.Store) := do
  try
    let content := Sqlite.FileContent.ofBytes (← IO.FS.readBinFile path)
    return (.file, { store with files := store.files.putFile (store.files.place path) content })
  catch error =>
    return (statusOfError error, store)

/-- What is at the path of a database, together with the file that it leads to. -/
def readDatabase (path : String) : IO (FileStatus × Sqlite.Store) := do
  let (status, store) ← readFile noFiles path
  match Sqlite.Location.ofText .readOnly path with
  | .ok { path := some file, .. } => return (status, (← readFile store file).2)
  | _ => return (status, store)

/-- The files that a command line is about. -/
def filesFor : Except Stop Invocation → IO (FileStatus × Sqlite.Store)
  | .ok { request, .. } =>
    match request.database? with
    | some path => readDatabase path
    | none => return (.absent, noFiles)
  | .error _ => return (.absent, noFiles)

def logStart : Except Stop Invocation → IO Unit
  | .ok { level, format, .. } =>
    if level.admits .info then IO.eprintln (format.line .info "starting...") else return ()
  | .error _ => return ()

end ForeignData.Command

/-- Carry out a command line. -/
def main (words : List String) : IO UInt32 := do
  let invocation := ForeignData.Command.Invocation.read words
  ForeignData.Command.logStart invocation
  let (status, store) ← ForeignData.Command.filesFor invocation
  let (ending, _, output) := ForeignData.Command.runWords ForeignData.Sqlite.engine
    (fun _ _ => status) ForeignData.Command.buffer words (store, "")
  IO.print output
  IO.eprint ending.complaint
  return ending.code
