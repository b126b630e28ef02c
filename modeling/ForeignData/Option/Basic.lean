import ForeignData.Fault
import ForeignData.Files.Tree
import ForeignData.Stored.RowShape
import ForeignData.Text.Blank

/-!
# Options

Servers and foreign tables carry lists of named options. A list is checked before it is stored: the
names have to be known where the list stands, no name may be repeated, and values that name a file
or a policy have to be good ones. Options are then looked up by name.
-/

namespace ForeignData

/-- An option: a name and a value. -/
abbrev OptionList := List (String × String)

/-- What an option list belongs to. -/
inductive OptionContext where
  | server
  | table
  deriving DecidableEq

namespace OptionContext

/-- The name of what an option list belongs to. -/
def display : OptionContext → String
  | server => "server"
  | table => "foreign table"

def names : OptionContext → List String
  | server => ["database", "extensions"]
  | table => ["table", "on_conversion_error"]

end OptionContext

/-- Read a conversion policy in any case of its letters. -/
def ConversionPolicy.read (s : String) : Except Fault ConversionPolicy :=
  match lowerAscii s with
  | "error" => .ok .error
  | "null" => .ok .nullIfNullable
  | _ => .error (.invalidOptionValue "on_conversion_error" s)

/-- Read a truth value of an option, in any case and with blanks around it. -/
def readOptionBool (name value : String) : Except Fault Bool :=
  match lowerAscii (trimString value) with
  | "true" | "on" | "yes" | "1" => .ok true
  | "false" | "off" | "no" | "0" => .ok false
  | _ => .error (.invalidOptionValue name value)

/-- Whether there is a file at a path; a directory is no file. -/
def fileExists (files : String → FileStatus) (path : String) : Except Fault Bool :=
  match files path with
  | .file => .ok true
  | .directory | .absent => .ok false
  | .failure reason => .error (.fileSystem reason)

def checkValue (files : String → FileStatus) (name value : String) : Except Fault Unit :=
  if name = "database" then do
    if ← fileExists files value then pure () else throw (.noSuchFile value)
  else if name = "on_conversion_error" then
    (ConversionPolicy.read value).map fun _ => ()
  else
    pure ()

def checkFrom (files : String → FileStatus) (context : OptionContext) :
    List String → OptionList → Except Fault (List String)
  | seen, [] => .ok seen
  | seen, (name, value) :: options =>
    if name ∉ context.names then
      .error (.invalidOption name context.names)
    else if name ∈ seen then
      .error (.redundantOption name value)
    else do
      checkValue files name value
      checkFrom files context (name :: seen) options

/-- Check an option list. A server needs a database. -/
def checkOptions (files : String → FileStatus) (context : OptionContext) (options : OptionList) :
    Except Fault Unit := do
  let seen ← checkFrom files context [] options
  if context = .server ∧ "database" ∉ seen then
    throw .missingDatabase

def OptionList.find? (options : OptionList) (name : String) : Option String :=
  options.lookup name

end ForeignData
