import ForeignData.Command.Arguments
import ForeignData.Import.Basic

/-!
# Requests

A command line, once it is understood: what is to be done, and how much of it is logged in what
format.
-/

namespace ForeignData.Command

inductive Request where
  | importSchema (database : String) (remoteSchema localSchema server : String)
      (list : ImportList) (options : OptionList)
  | translateTypes (names : List String)
  | estimate (database query : String)
  | explain (database query : String) (verbose : Bool)
  deriving DecidableEq

def Request.database? : Request → Option String
  | importSchema database .. | estimate database _ | explain database .. => some database
  | translateTypes _ => none

/-- A command line that is understood. -/
structure Invocation where
  level : LogLevel
  format : LogFormat
  request : Request
  deriving DecidableEq

def required {α : Type} (given : Option α) : Except Stop α :=
  match given with
  | some v => .ok v
  | none => .error .usage

/-- The list of an import. Tables cannot be both listed and excepted. -/
def importListOf (limitTo except : List String) : Except Stop ImportList :=
  match limitTo, except with
  | [], [] => .ok .all
  | names, [] => .ok (.limitTo names)
  | [], names => .ok (.except names)
  | _, _ => .error .usage

def Subcommand.request (s : Subcommand) (a : Arguments) : Except Stop Request :=
  match s with
  | importSchema => do
    let list ← importListOf a.limitTo a.except
    return .importSchema (← required a.database) (a.remoteSchema.getD "main")
      (a.localSchema.getD "public") (← required a.server) list a.importOptions
  | translateType => if a.words.isEmpty then .error .usage else .ok (.translateTypes a.words)
  | estimate => do return .estimate (← required a.database) (← required a.words.head?)
  | explain => do
    return .explain (← required a.database) (← required a.words.head?) a.verbosePlan

/-- What a request for help on a subcommand comes to. -/
def helpOn (words : List String) : Stop :=
  match words with
  | [] => .help
  | [word] => if word = "help" ∨ (Subcommand.ofName? word).isSome then .help else .usage
  | _ => .usage

namespace Invocation

/-- An invocation with options in front of its request and behind it. The ones behind count more. -/
def new (outer inner : Arguments) (request : Request) : Invocation where
  level := .ofVerbosity (if inner.verbosity = 0 then outer.verbosity else inner.verbosity)
  format := (inner.logFormat.or outer.logFormat).getD .pretty
  request

def read (words : List String) : Except Stop Invocation := do
  let (outer, rest) ← Reading.start.readWords none words
  match rest with
  | [] => throw .usage
  | name :: words =>
    match Subcommand.ofName? name with
    | none => throw (helpOn words)
    | some subcommand =>
      let (reading, _) ← Reading.start.readWords (some subcommand) words
      let inner ← reading.settle
      let request ← subcommand.request inner
      return new (← outer.settle) inner request

end Invocation

end ForeignData.Command
