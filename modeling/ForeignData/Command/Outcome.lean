import ForeignData.Command.Request
import ForeignData.Plan.Relation
import ForeignData.Scan.Explain

/-!
# Outcomes

A request is worked out on an engine, and what it comes to is written piece by piece. A write may
fail, and may have taken a part of its piece by then; nothing is written behind it. The database of
a request is checked like the one of a server.
-/

namespace ForeignData

/-- Do something and leave alone what is beside. -/
def Action.onFirst {σ ω α : Type} (action : Action σ α) : Action (σ × ω) α :=
  fun (s, w) =>
    let (result, s) := action.run s
    (result, (s, w))

/-- Do something beside, and leave the rest alone. -/
def Action.onSecond {σ ω α : Type} (action : Action ω α) : Action (σ × ω) α :=
  fun (s, w) =>
    let (result, w) := action.run w
    (result, (s, w))

namespace Command

/-! ### Texts -/

/-- The statement of an import, closed by a semicolon and set off by an empty line. -/
def closed (statement : String) : String :=
  statement ++ ";\n\n"

def typeNameText (name : String) : String :=
  name ++ "\t" ++ importedTypeName name ++ "\n"

def costText (cost : Binary64) : String :=
  cost.value.fixedText 2

/-- A number of rows with the cost of a scan that gives them. -/
def estimateText (rows : Int64) : String :=
  let cost := PathCost.ofRows (.ofInt rows.toInt)
  "rows=" ++ intString rows.toInt ++ " startup_cost=" ++ costText cost.startup
    ++ " total_cost=" ++ costText cost.total ++ "\n"

def propertyText (property : Property) : String :=
  property.1 ++ ": " ++ property.2 ++ "\n"

def versionText : String :=
  "fdwctl 0.4.0\n"

/-- How the program is used. -/
def helpLines : List String :=
  ["Inspect sqlite databases the way the foreign data wrapper sees them", "",
    "Usage: fdwctl [OPTIONS] <COMMAND>", "",
    "Commands:",
    "  import-schema   Print CREATE FOREIGN TABLE statements for the tables of a database",
    "  translate-type  Show the host type a sqlite declared type imports as",
    "  estimate        Show sqlite's row estimate and the resulting path cost for a query",
    "  explain         Show the EXPLAIN properties of a remote query",
    "  help            Print this message or the help of the given subcommand(s)", "",
    "Options:",
    "  -v, --verbose...           Log verbosity",
    "      --log-mode <LOG_MODE>  Log output format [possible values: pretty, json, compact]",
    "  -h, --help                 Print help",
    "  -V, --version              Print version"]

def helpText : String :=
  String.join (helpLines.map fun line => line ++ "\n")

/-! ### Running -/

section

variable {σ κ τ ω : Type} (e : Engine σ κ τ) (files : σ → String → FileStatus)
  (write : String → Action ω Unit)

/-- Write something of each of some values, up to the first write that fails. -/
def writeEach {α : Type} (text : α → String) : List α → Action ω Unit
  | [] => pure ()
  | a :: rest => do
    write (text a)
    writeEach text rest

def checkDatabase (database : String) : Action σ Unit := do
  Action.ofExcept (checkOptions (files (← get)) .server [("database", database)])

def Request.run : Request → Action (σ × ω) Unit
  | importSchema database remoteSchema localSchema server list options => do
    (checkDatabase files database).onFirst
    let options ← Action.ofExcept (ImportOptions.ofList options)
    let request : ImportRequest := { remoteSchema, localSchema, server, list, options }
    let statements ← (ForeignData.importSchema e database request).onFirst
    (writeEach write closed statements).onSecond
  | translateTypes names => (writeEach write typeNameText names).onSecond
  | estimate database query => do
    (checkDatabase files database).onFirst
    let rows ← (estimateRows e database query).onFirst
    (write (estimateText rows)).onSecond
  | explain database query verbose => do
    (checkDatabase files database).onFirst
    let properties ← (explainQuery e database query verbose).onFirst
    (writeEach write propertyText properties).onSecond

/-- How a command line ends. -/
inductive Ending where
  | done
  | failed (fault : Fault)
  /-- The command line cannot be understood. -/
  | refused
  deriving DecidableEq

namespace Ending

def code : Ending → UInt32
  | done => 0
  | failed _ => 1
  | refused => 2

def complaint : Ending → String
  | done => ""
  | failed fault => "Error: " ++ fault.message ++ "\n"
  | refused => helpText

def ofResult : Except Fault Unit → Ending
  | .ok _ => done
  | .error fault => failed fault

end Ending

/-- Write a text as far as it can be written. -/
def writeAnyway (text : String) (s : σ × ω) : Ending × σ × ω :=
  (.done, ((write text).onSecond.run s).2)

/-- Carry out the words of a command line, on files that an engine reads. -/
def runWords (words : List String) (s : σ × ω) : Ending × σ × ω :=
  match Invocation.read words with
  | .error .help => writeAnyway write helpText s
  | .error .version => writeAnyway write versionText s
  | .error .usage => (.refused, s)
  | .ok invocation =>
    let (result, s) := (invocation.request.run e files write).run s
    (.ofResult result, s)

end

def buffer (text : String) : Action String Unit :=
  modify (· ++ text)

end Command

end ForeignData
