/-
Log events.

An event has a level, the part of the program it comes from, a message, and named
fields.
-/
namespace QuotaGate

namespace Log

/-- How much an event matters, most first. -/
inductive Level
  | error
  | warn
  | info
  | debug
  | trace
  deriving DecidableEq, Repr

/-- The place of a level in the order, from 1 for the gravest. -/
def Level.rank : Level → Nat
  | .error => 1
  | .warn => 2
  | .info => 3
  | .debug => 4
  | .trace => 5

def Level.name : Level → String
  | .error => "ERROR"
  | .warn => "WARN"
  | .info => "INFO"
  | .debug => "DEBUG"
  | .trace => "TRACE"

/-- One event. -/
structure Event where
  level : Level
  source : String
  message : String
  fields : List (String × String) := []
  deriving DecidableEq, Repr

namespace Event

/-- The message and the fields. -/
def body (e : Event) : String :=
  e.fields.foldl (fun text f => text ++ " " ++ f.1 ++ "=" ++ f.2) e.message

/-- The names of the fields; the message is one of them. -/
def fieldNames (e : Event) : List String :=
  "message" :: e.fields.map Prod.fst

/-- An event without its source. -/
def brief (e : Event) : String :=
  e.level.name ++ " " ++ e.body

/-- An event as a line of a log. -/
def line (e : Event) : String :=
  e.level.name ++ " " ++ e.source ++ ": " ++ e.body

end Event

end Log

end QuotaGate
