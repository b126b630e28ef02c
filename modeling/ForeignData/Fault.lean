import ForeignData.Host.Catalog
import ForeignData.Plan.Mutation
import ForeignData.Stored.Value

/-!
# Faults

Everything that can go wrong, by its cause, with the wording of each. A misuse is a fault of the
host: a call at the wrong time or with the wrong arguments.
-/

namespace ForeignData

/-- How far a scan has come: it is planned, then begun, then it hands out rows, and at last it has
ended. -/
inductive ScanPhase where
  | planned
  | began
  | iterating
  | ended
  deriving DecidableEq

def ScanPhase.display : ScanPhase → String
  | planned => "Planned"
  | began => "Began"
  | iterating => "Iterating"
  | ended => "Ended"

/-- A call that the host must not make. -/
inductive Misuse where
  | beginInPhase (phase : ScanPhase)
  | iterateBeforeBegin
  | rescanNotRunning
  | parameterCount (expected : Nat) (got : Option Nat)
  | noParameter (index : Nat)
  | parameterIndex (index : Nat)
  | rowidNotInteger (value : StoredValue)
  | updateWithoutTargets (table : String)
  | changeAlreadyBegan
  | changeNotRunning
  | mutationMismatch (planned : Mutation)
  | missingValue (column : Nat)
  deriving DecidableEq

def Misuse.message : Misuse → String
  | beginInPhase phase => s!"begin called on a scan in phase {phase.display}"
  | iterateBeforeBegin => "iterate called before begin"
  | rescanNotRunning => "rescan called on a scan that is not running"
  | parameterCount expected got =>
    let count := (got.map natString).getD "none"
    s!"plan expects {natString expected} parameters, got {count}"
  | noParameter index => s!"no parameter at index {natString index}"
  | parameterIndex index => s!"parameter index {natString index} out of range"
  | rowidNotInteger value => s!"sqlite returned {value.describe} as rowid"
  | updateWithoutTargets table => s!"update of {table} without target columns"
  | changeAlreadyBegan => "begin called on a modify that already began"
  | changeNotRunning => "modify is not running"
  | mutationMismatch planned => s!"operation does not match planned mutation {planned.display}"
  | missingValue column => s!"row has no value for column {natString column}"

/-- A cause of failure. -/
inductive Fault where
  | invalidOption (name : String) (valid : List String)
  | redundantOption (name value : String)
  | invalidOptionValue (name value : String)
  | missingDatabase
  | unknownExtension (name : String)
  | noSuchFile (path : String)
  /-- The file system failed in another way than by having no such file. -/
  | fileSystem (reason : String)
  | openFailed (path reason : String)
  | prepareFailed (reason : String)
  | bindFailed (reason : String)
  | stepFailed (reason : String)
  /-- A statement gives more rows than its engine has said to be left. -/
  | rowsPastBound
  | noEstimate (reason : String)
  | noSuchSchema (name : String)
  | lookupFailed (object : CatalogObject)
  | unknownAttribute (number : AttrNumber)
  | invalidConversion (value : StoredValue) (type : HostType) (column : String)
  | nullViolation (column : String)
  | columnCount (expected actual : Nat)
  | unsupportedParameter (type : HostType)
  | parameterMismatch (index : Nat) (type : HostType) (got : String)
  | unreadable (input : String) (type : HostType)
  /-- The private data of a plan cannot be decoded. -/
  | malformedPlan
  | misuse (cause : Misuse)
  deriving DecidableEq

def Fault.message : Fault → String
  | invalidOption name valid =>
    let names := ", ".intercalate valid
    s!"invalid option \"{name}\" (valid options in this context are: {names})"
  | redundantOption name value => s!"redundant options: {name} ({value})"
  | invalidOptionValue name value => s!"invalid value for option \"{name}\": {value}"
  | missingDatabase => "The database name must be specified"
  | unknownExtension name => s!"unknown extension \"{name}\""
  | noSuchFile path => s!"could not access file \"{path}\""
  | fileSystem reason => reason
  | openFailed path reason => s!"Can't open sqlite database {path}: {reason}"
  | prepareFailed reason => s!"SQL error during prepare: {reason}"
  | bindFailed reason => s!"error while trying to bind param \"{reason}\""
  | stepFailed reason => s!"SQL error during step: {reason}"
  | rowsPastBound => "statement gives more rows than are left"
  | noEstimate reason => s!"Could not run sqlite_stmt_scanstatus: {reason}"
  | noSuchSchema name => s!"Foreign schema \"{name}\" is invalid"
  | lookupFailed object =>
    s!"cache lookup failed for {object.kind.display} {natString object.oid.toNat}"
  | unknownAttribute number => s!"no column with attribute number {intString number.toInt}"
  | invalidConversion value type column =>
    s!"cannot convert sqlite value {value.describe} to {type.display} for column \"{column}\""
  | nullViolation column => s!"null value in column \"{column}\" violates not-null constraint"
  | columnCount expected actual =>
    s!"expected {natString expected} result columns, sqlite returned {natString actual}"
  | unsupportedParameter type => s!"unsupported parameter type: {type.display}"
  | parameterMismatch index type got =>
    s!"parameter ${natString index} declared as {type.display} but got a {got} value"
  | unreadable input type => s!"Failed to parse '{input}' as {type.display}"
  | malformedPlan => "malformed plan data"
  | misuse cause => s!"internal: {cause.message}"

/-- A step on a state, which may fail and may leave the state changed when it does. -/
abbrev Action (σ α : Type) := ExceptT Fault (StateM σ) α

namespace Action

def run {σ α : Type} (action : Action σ α) (s : σ) : Except Fault α × σ :=
  ExceptT.run action s

/-- An action that gives a result or a fault and leaves the state alone. -/
def ofExcept {σ α : Type} (result : Except Fault α) : Action σ α :=
  ExceptT.mk (pure result)

end Action

end ForeignData
