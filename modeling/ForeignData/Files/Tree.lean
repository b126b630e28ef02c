import ForeignData.Text.Split

/-!
# File trees

Directories and files, with a content for each file. A path is walked name by name, from the top if
it begins with a slash and from the working directory otherwise. A database library instead puts
names together before it looks: there, a parent directory takes the name before it away whether that
exists or not.
-/

namespace ForeignData

/-- What is found at a path. -/
inductive FileStatus where
  | file
  | directory
  | absent
  /-- Looking failed for another reason than that there is nothing. -/
  | failure (reason : String)
  deriving DecidableEq

/-- A place in a tree, as the names on the way from the top. -/
abbrev TreePath := List String

/-- The names of a path, in order, empty ones included. -/
def pathNames (path : String) : List String :=
  (splitAtMark '/' path.toList).map String.ofList

/-- Directories and files. -/
structure FileTree (α : Type) where
  /-- The working directory, which exists. -/
  start : TreePath
  directories : List TreePath
  files : List (TreePath × α)

namespace FileTree

variable {α : Type}

/-- The tree with nothing in it but a working directory. -/
def empty (start : TreePath) : FileTree α where
  start
  directories := []
  files := []

def content? (t : FileTree α) (path : TreePath) : Option α :=
  t.files.lookup path

/-- Whether a path is a directory; the working directory and all above it are. -/
def isDirectory (t : FileTree α) (path : TreePath) : Bool :=
  path.isPrefixOf t.start || t.directories.contains path

def addDirectory (t : FileTree α) (path : TreePath) : FileTree α :=
  { t with directories := path :: t.directories }

def startOf (t : FileTree α) (path : String) : TreePath :=
  if path.toList.head? = some '/' then [] else t.start

/-- Put a file in the place of what was at its path. -/
def putFile (t : FileTree α) (path : TreePath) (content : α) : FileTree α :=
  { t with files := (path, content) :: t.files.filter (·.1 != path) }

/-! ### Paths of the file system -/

def maxNameBytes : Nat := 255

def maxPathBytes : Nat := 4095

/-- Why a path with a name that is too long is refused. -/
def nameTooLong : String := "File name too long (os error 36)"

/-- Why a path with a zero in it is refused. -/
def pathHasNul : String := "file name contained an unexpected NUL byte"

/-- Whether a character is the one that ends texts of the operating system. -/
def isNul (c : Char) : Bool :=
  c.toNat == 0

/-- Walk the names that are left from the directory at `here`. -/
def walk (t : FileTree α) (here : TreePath) : List String → FileStatus
  | [] => .directory
  | name :: names =>
    if name = "" ∨ name = "." then
      t.walk here names
    else if name = ".." then
      t.walk here.dropLast names
    else if maxNameBytes < name.utf8ByteSize then
      .failure nameTooLong
    else
      let next := here ++ [name]
      if t.isDirectory next then
        t.walk next names
      else if (t.content? next).isSome ∧ names = [] then
        .file
      else
        .absent

def status (t : FileTree α) (path : String) : FileStatus :=
  if path.toList.any isNul then
    .failure pathHasNul
  else if maxPathBytes < path.utf8ByteSize then
    .failure nameTooLong
  else if path = "" then
    .absent
  else
    t.walk (t.startOf path) (pathNames path)

/-! ### Paths of databases -/

/-- Put the names of a path together, onto those before. -/
def joinNames : TreePath → List String → TreePath
  | path, [] => path
  | path, name :: names =>
    if name = "" ∨ name = "." then joinNames path names
    else if name = ".." then joinNames path.dropLast names
    else joinNames (path ++ [name]) names

/-- The place that a path means once its names are put together. -/
def place (t : FileTree α) (path : String) : TreePath :=
  joinNames (t.startOf path) (pathNames path)

end FileTree

end ForeignData
