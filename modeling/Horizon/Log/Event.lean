/-
  Horizon.Log.Event
  ─────────────────
  **LOGGED EVENTS.**
-/
namespace Horizon.Log

/-- How much an event matters. -/
inductive Severity where
  | error
  | warn
  | info
  | debug
  | trace
  deriving Repr, DecidableEq

namespace Severity

/-- The severity's name. -/
def text : Severity → String
  | .error => "ERROR"
  | .warn => "WARN"
  | .info => "INFO"
  | .debug => "DEBUG"
  | .trace => "TRACE"

/-- The level of detail at which the severity is first shown. -/
def detail : Severity → Nat
  | .error => 1
  | .warn => 2
  | .info => 3
  | .debug => 4
  | .trace => 5

end Severity

/-- Something worth noting. -/
structure Event where
  /-- How much it matters. -/
  severity : Severity
  /-- The part of the program that notes it. -/
  target : String
  /-- What happened. -/
  message : String
  /-- Particulars, as written. -/
  fields : List (String × String) := []
  deriving Repr, DecidableEq

/-- The event has a particular of that name; what happened is one itself. -/
def Event.hasField (event : Event) (name : String) : Bool :=
  name == "message" || event.fields.any (·.1 == name)

/-- The event on one line. -/
def Event.line (event : Event) : String :=
  s!"{event.severity.text} {event.target}: {event.message}" ++
    String.join (event.fields.map fun field => s!" {field.1}={field.2}")

end Horizon.Log
