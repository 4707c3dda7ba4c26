/-
  Horizon.Log.Filter
  ──────────────────
  **WHICH EVENTS ARE SHOWN.**

  A filter is a list of directives between commas.  Of the directives that apply to an
  event the most specific decides: the one with the longest target, of those the one that
  asks for a particular, and of two for the same events the later.  Events that no
  directive speaks of are not shown.  Nor does a directive that asks for a span of work or
  for the value of a particular show any: no event lies in a span.
-/
import Horizon.Log.Directive
import Horizon.Log.Event

namespace Horizon.Log

open Text

namespace Directive

/-- The directive speaks of the event. -/
def appliesTo (directive : Directive) (event : Event) : Bool :=
  directive.isStatic &&
    (match directive.target with
      | some target => target.isPrefixOf event.target.toList
      | none => true) &&
    (match directive.fieldName? with
      | some name => event.hasField name
      | none => true)

/-- The length of the target, where none is shorter than any. -/
def targetLength (directive : Directive) : Nat :=
  match directive.target with
  | some target => target.length + 1
  | none => 0

/-- A particular asked for is more specific than none; of two the later in the order of
names counts as such. -/
def fieldAtMost : Option String → Option String → Bool
  | none, _ => true
  | some _, none => false
  | some a, some b => a ≤ b

/-- Another directive, which comes later, is at least as specific. -/
def yieldsTo (directive later : Directive) : Bool :=
  directive.targetLength < later.targetLength ||
    directive.targetLength = later.targetLength &&
      fieldAtMost directive.fieldName? later.fieldName?

end Directive

/-- Directives, in order. -/
abbrev Filter := List Directive

namespace Filter

/-- The parts of a filter's text. -/
def parts (text : String) : List (List Char) :=
  (splitOn ',' text.toList).filter (!·.isEmpty)

/-- The filter that a text describes, if no part is wrong. -/
def parse (text : String) : Except DirectiveFault Filter :=
  (parts text).mapM Directive.parse

/-- The directives of the parts that have the form of one; nothing if reading breaks
off. -/
def ofParts? : List (List Char) → Option Filter
  | [] => some []
  | part :: parts =>
    match Directive.parse part with
    | .ok directive => (ofParts? parts).map (directive :: ·)
    | .error .malformed => ofParts? parts
    | .error .partedCharacter => none

/-- The filter of the parts of a text that are right. -/
def ofText? (text : String) : Option Filter :=
  ofParts? (parts text)

/-- The directive that decides about an event. -/
def decisive? (filter : Filter) (event : Event) : Option Directive :=
  (filter.filter (·.appliesTo event)).foldl
    (fun best next =>
      match best with
      | none => some next
      | some directive => if directive.yieldsTo next then some next else best)
    none

/-- The event is shown. -/
def admits (filter : Filter) (event : Event) : Bool :=
  match filter.decisive? event with
  | some directive => event.severity.detail ≤ directive.detail
  | none => false

end Filter

end Horizon.Log
