import ForeignData.Command.Verbosity
import ForeignData.Option.Basic
import ForeignData.Text.Split

/-!
# Arguments

A command line consists of words. A word that begins with two dashes names an option, one that
begins with one dash names options by letters, and two dashes alone make all words behind them plain
ones. The value of an option is attached to it or is the next word, and it is looked at when the
next option or plain word comes; so the first of several faults is the one that counts, and a
request for help in front of them is met.
-/

namespace ForeignData.Command

/-- Why a command line is not carried out. -/
inductive Stop where
  | help
  | version
  /-- The command line cannot be understood. -/
  | usage
  deriving DecidableEq

/-- What a command line asks for. -/
inductive Subcommand where
  | importSchema
  | translateType
  | estimate
  | explain
  deriving DecidableEq

def Subcommand.ofName? (name : String) : Option Subcommand :=
  match name with
  | "import-schema" => some importSchema
  | "translate-type" => some translateType
  | "estimate" => some estimate
  | "explain" => some explain
  | _ => none

/-- An option without a value. -/
inductive Switch where
  | verbose
  | verbosePlan
  | help
  | version
  deriving DecidableEq

/-- An option with a value. -/
inductive Setting where
  | logFormat
  | database
  | server
  | remoteSchema
  | localSchema
  | limitTo
  | except
  | importOption
  deriving DecidableEq

inductive OptionKind where
  | switch (s : Switch)
  | setting (s : Setting)
  deriving DecidableEq

structure OptionName where
  letter : Option Char
  name : String
  kind : OptionKind

/-! ### Options of subcommands -/

def commonOptions : List OptionName :=
  [⟨some 'v', "verbose", .switch .verbose⟩, ⟨none, "log-mode", .setting .logFormat⟩,
    ⟨some 'h', "help", .switch .help⟩]

def databaseOption : OptionName :=
  ⟨some 'd', "database", .setting .database⟩

/-- The options that are known in front of a subcommand, and behind each. -/
def knownOptions : Option Subcommand → List OptionName
  | none => ⟨some 'V', "version", .switch .version⟩ :: commonOptions
  | some .importSchema =>
    [databaseOption, ⟨some 's', "server", .setting .server⟩,
      ⟨none, "remote-schema", .setting .remoteSchema⟩,
      ⟨none, "local-schema", .setting .localSchema⟩, ⟨none, "limit-to", .setting .limitTo⟩,
      ⟨none, "except", .setting .except⟩, ⟨some 'o', "option", .setting .importOption⟩]
      ++ commonOptions
  | some .translateType => commonOptions
  | some .estimate => databaseOption :: commonOptions
  | some .explain =>
    databaseOption :: ⟨none, "verbose-plan", .switch .verbosePlan⟩ :: commonOptions

def optionOfName? (level : Option Subcommand) (name : String) : Option OptionKind :=
  ((knownOptions level).find? fun o => o.name == name).map OptionName.kind

def optionOfLetter? (level : Option Subcommand) (letter : Char) : Option OptionKind :=
  ((knownOptions level).find? fun o => o.letter == some letter).map OptionName.kind

/-- Whether there may be a plain word behind those that there are. -/
def takesWord (level : Option Subcommand) (words : List String) : Bool :=
  match level with
  | some .translateType => true
  | some .estimate | some .explain => words.isEmpty
  | some .importSchema | none => false

/-! ### Collecting -/

/-- What has been given. -/
structure Arguments where
  verbosity : Nat
  logFormat : Option LogFormat
  database : Option String
  server : Option String
  remoteSchema : Option String
  localSchema : Option String
  limitTo : List String
  except : List String
  importOptions : OptionList
  verbosePlan : Bool
  words : List String
  deriving DecidableEq

def Arguments.empty : Arguments where
  verbosity := 0
  logFormat := none
  database := none
  server := none
  remoteSchema := none
  localSchema := none
  limitTo := []
  except := []
  importOptions := []
  verbosePlan := false
  words := []

/-- What is given for the first time. -/
def giveOnce {α : Type} (old : Option α) (new : α) : Except Stop (Option α) :=
  if old.isSome then .error .usage else .ok (some new)

/-- What is in front of the first place of a character and what is behind it, if it is there. -/
def splitAtFirst (c : Char) (s : List Char) : List Char × Option (List Char) :=
  match s.dropWhile (· != c) with
  | [] => (s, none)
  | _ :: rest => (s.takeWhile (· != c), some rest)

/-- The items of a list that is given as one text, with commas between them. -/
def listItems (value : String) : List String :=
  (splitAtMark ',' value.toList).map String.ofList

def readImportOption (value : String) : Except Stop (String × String) :=
  match splitAtFirst '=' value.toList with
  | (name, some value) => .ok (String.ofList (trim name), String.ofList (trim value))
  | (_, none) => .error .usage

namespace Arguments

def set (a : Arguments) (setting : Setting) (value : String) : Except Stop Arguments :=
  match setting with
  | .logFormat =>
    match LogFormat.ofName? value with
    | none => .error .usage
    | some format => (giveOnce a.logFormat format).map fun v => { a with logFormat := v }
  | .database =>
    if value = "" then .error .usage
    else (giveOnce a.database value).map fun v => { a with database := v }
  | .server => (giveOnce a.server value).map fun v => { a with server := v }
  | .remoteSchema => (giveOnce a.remoteSchema value).map fun v => { a with remoteSchema := v }
  | .localSchema => (giveOnce a.localSchema value).map fun v => { a with localSchema := v }
  | .limitTo => .ok { a with limitTo := a.limitTo ++ listItems value }
  | .except => .ok { a with except := a.except ++ listItems value }
  | .importOption =>
    (readImportOption value).map fun option =>
      { a with importOptions := a.importOptions ++ [option] }

def turnOn (a : Arguments) : Switch → Except Stop Arguments
  | .verbose => .ok { a with verbosity := a.verbosity + 1 }
  | .verbosePlan => if a.verbosePlan then .error .usage else .ok { a with verbosePlan := true }
  | .help => .error .help
  | .version => .error .version

end Arguments

/-! ### Reading -/

/-- Arguments under way, with the option whose value is not yet looked at. -/
structure Reading where
  arguments : Arguments
  pending : Option (Setting × Option String)

namespace Reading

def start : Reading where
  arguments := .empty
  pending := none

/-- Look at the value of the last option. -/
def settle (r : Reading) : Except Stop Arguments :=
  match r.pending with
  | none => .ok r.arguments
  | some (setting, some value) => r.arguments.set setting value
  | some (_, none) => .error .usage

/-- Whether the next word is the value of an option. -/
def awaitsValue (r : Reading) : Bool :=
  match r.pending with
  | some (_, none) => true
  | _ => false

/-- Take an option without a value. -/
def takeSwitch (r : Reading) (switch : Switch) : Except Stop Reading := do
  let a ← r.settle
  return { arguments := ← a.turnOn switch, pending := none }

/-- Take an option whose value may be attached to it. -/
def takeSetting (r : Reading) (setting : Setting) (attached : Option String) :
    Except Stop Reading := do
  let a ← r.settle
  match attached with
  | some value => return { arguments := ← a.set setting value, pending := none }
  | none => return { arguments := a, pending := some (setting, none) }

def takePlain (level : Option Subcommand) (r : Reading) (word : String) : Except Stop Reading := do
  let a ← r.settle
  if takesWord level a.words then
    return { arguments := { a with words := a.words ++ [word] }, pending := none }
  else
    throw .usage

def takeName (level : Option Subcommand) (r : Reading) (name : String)
    (attached : Option String) : Except Stop Reading :=
  match optionOfName? level name, attached with
  | some (.switch switch), none => r.takeSwitch switch
  | some (.setting setting), attached => r.takeSetting setting attached
  | some (.switch _), some _ | none, _ => .error .usage

def attachedTo : List Char → Option String
  | [] => none
  | '=' :: value => some (String.ofList value)
  | value => some (String.ofList value)

def takeLetters (level : Option Subcommand) (r : Reading) : List Char → Except Stop Reading
  | [] => .ok r
  | letter :: letters =>
    match optionOfLetter? level letter with
    | some (.switch switch) => do takeLetters level (← r.takeSwitch switch) letters
    | some (.setting setting) => r.takeSetting setting (attachedTo letters)
    | none => .error .usage

def takePlains (level : Option Subcommand) (r : Reading) : List String → Except Stop Reading
  | [] => .ok r
  | word :: words => do takePlains level (← r.takePlain level word) words

/-- Take a word that is neither an option nor the mark behind which there are none. -/
def takeOther (level : Option Subcommand) (r : Reading) (word : String) : Except Stop Reading :=
  match r.pending with
  | some (setting, none) => .ok { r with pending := some (setting, some word) }
  | _ => r.takePlain level word

def endsOptions (level : Option Subcommand) (r : Reading) (word : String) : Bool :=
  level.isNone && !r.awaitsValue && (word == "help" || (Subcommand.ofName? word).isSome)

/-- Read words, up to a subcommand where there may be one. Gives the words from there on. -/
def readWords (level : Option Subcommand) (r : Reading) :
    List String → Except Stop (Reading × List String)
  | [] => .ok (r, [])
  | word :: words =>
    if r.endsOptions level word then
      .ok (r, word :: words)
    else
      match word.toList with
      | ['-', '-'] => do return (← r.takePlains level words, [])
      | '-' :: '-' :: s => do
        let (name, value) := splitAtFirst '=' s
        let r ← r.takeName level (String.ofList name) (value.map String.ofList)
        readWords level r words
      | '-' :: c :: s => do
        let r ← r.takeLetters level (c :: s)
        readWords level r words
      | _ => do
        let r ← r.takeOther level word
        readWords level r words

end Reading

end ForeignData.Command
