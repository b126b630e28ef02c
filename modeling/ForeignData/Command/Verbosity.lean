/-!
# Verbosity

How much is logged grows with the number of times that it is asked for, and an event can be written
in several formats.
-/

namespace ForeignData

/-- The level up to which events are logged. -/
inductive LogLevel where
  | warn
  | info
  | debug
  | trace
  deriving DecidableEq

namespace LogLevel

def display : LogLevel → String
  | warn => "WARN"
  | info => "INFO"
  | debug => "DEBUG"
  | trace => "TRACE"

def ofVerbosity (count : Nat) : LogLevel :=
  match count with
  | 0 => warn
  | 1 => info
  | 2 => debug
  | _ => trace

/-- The place of a level, from the fewest events to the most. -/
def rank : LogLevel → Nat
  | warn => 0
  | info => 1
  | debug => 2
  | trace => 3

/-- Whether events of another level are logged. -/
def admits (level event : LogLevel) : Bool :=
  event.rank ≤ level.rank

end LogLevel

/-- A format of logged events. -/
inductive LogFormat where
  | pretty
  | json
  | compact
  deriving DecidableEq

namespace LogFormat

def ofName? (name : String) : Option LogFormat :=
  match name with
  | "pretty" => some pretty
  | "json" => some json
  | "compact" => some compact
  | _ => none

/-- The text of an event, for a message without quotes. -/
def line (format : LogFormat) (level : LogLevel) (message : String) : String :=
  match format with
  | pretty => "  " ++ level.display ++ ": " ++ message ++ "\n"
  | compact => level.display ++ " " ++ message
  | json =>
    "\x7b\"level\":\"" ++ level.display ++ "\",\"message\":\"" ++ message ++ "\"\x7d"

end LogFormat

end ForeignData
