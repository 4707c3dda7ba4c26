/-
  Horizon.Log.Directive
  ─────────────────────
  **THE PARTS OF A LOG FILTER.**

      level                   everything up to that level of detail
      target                  everything of a target
      target=level            a target up to that level of detail
      target[span]=level      the same within a span of work of that name
      target[{field}]=level   the same where there is a particular of that name
      target[{field=value}]   the same where the particular has a value, or fits a pattern

  White space around a directive takes no part in finding the brackets and the equals
  sign, but the pieces between them are cut out by offset, and the offsets count from the
  first character behind the white space while the cutting starts at the white space.  A
  directive with white space in front is therefore cut askew; where a cut would part the
  bytes of one character, reading breaks off.
-/
import Horizon.Text.Pattern

namespace Horizon.Log

open Text

/-! ## §1. Levels of detail. -/

/-- Everything. -/
def fullDetail : Nat := 5

/-- The names of the levels, by detail. -/
def levelNames : List String := ["off", "error", "warn", "info", "debug", "trace"]

/-- The level of detail that a text names, in letters of either case or as a number. -/
def detail? (text : List Char) : Option Nat :=
  match readUnsigned 10 fullDetail text with
  | .ok n => some n
  | .error _ =>
    levelNames.findIdx? (· == String.ofList (text.map Char.toLower))

/-! ## §2. Directives. -/

/-- Which particulars an event must have. -/
inductive FieldTest where
  /-- One of that name. -/
  | named (name : String)
  /-- One with a certain value. -/
  | valued
  deriving Repr, DecidableEq

/-- What is shown of some events. -/
structure Directive where
  /-- What the names of their targets start with. -/
  target : Option (List Char) := none
  /-- They lie within a span of a certain name. -/
  inSpan : Bool := false
  /-- Which particulars they have. -/
  field : Option FieldTest := none
  /-- The level of detail, from 0 for nothing to 5 for everything. -/
  detail : Nat := fullDetail
  deriving Repr, DecidableEq

/-- Why a text is no directive. -/
inductive DirectiveFault where
  /-- It has not the form of one. -/
  | malformed
  /-- A cut would part the bytes of one character. -/
  | partedCharacter
  deriving Repr, DecidableEq

/-! ## §3. Pieces. -/

/-- Leave out that many bytes. -/
def dropBytes : Nat → List Char → Except DirectiveFault (List Char)
  | 0, text => .ok text
  | _ + 1, [] => .error .partedCharacter
  | n + 1, c :: rest =>
    if c.utf8Size ≤ n + 1 then dropBytes (n + 1 - c.utf8Size) rest
    else .error .partedCharacter

/-- Keep that many bytes. -/
def takeBytes : Nat → List Char → Except DirectiveFault (List Char)
  | 0, _ => .ok []
  | _ + 1, [] => .error .partedCharacter
  | n + 1, c :: rest =>
    if c.utf8Size ≤ n + 1 then do return c :: (← takeBytes (n + 1 - c.utf8Size) rest)
    else .error .partedCharacter

/-- The piece between two offsets. -/
def piece (start stop : Nat) (text : List Char) : Except DirectiveFault (List Char) := do
  takeBytes (stop - start) (← dropBytes start text)

/-- The characters are a decimal number without a sign, maybe with a fraction and an
exponent, or a number's name. -/
def isMagnitude (text : List Char) : Bool :=
  ["inf", "infinity", "nan"].contains (String.ofList (text.map Char.toLower)) ||
    let whole := text.takeWhile Char.isDigit
    let rest := text.drop whole.length
    let fraction :=
      if rest.head? = some '.' then (rest.drop 1).takeWhile Char.isDigit else []
    let rest := if rest.head? = some '.' then rest.drop (1 + fraction.length) else rest
    !(whole ++ fraction).isEmpty &&
      match rest with
      | [] => true
      | e :: exponent =>
        let digits :=
          if exponent.head? = some '+' || exponent.head? = some '-' then exponent.drop 1
          else exponent
        (e = 'e' || e = 'E') && !digits.isEmpty && digits.all Char.isDigit

/-- The characters are the value of a particular: a pattern, or a number with a plus
sign, which would be no pattern. -/
def isFieldValue : List Char → Bool
  | '+' :: magnitude => isMagnitude magnitude
  | text => isPattern text

/-- The test that stands between braces: a name, maybe with an equals sign and a value.
What follows a further equals sign has no meaning. -/
def fieldTest (text : List Char) : Except DirectiveFault FieldTest :=
  match splitOn '=' text with
  | _ :: value :: _ => if isFieldValue value then .ok .valued else .error .malformed
  | _ => if text.isEmpty then .error .malformed else .ok (.named (String.ofList text))

/-! ## §4. Reading. -/

/-- How far a directive was read; offsets tell where a piece starts. -/
inductive Place where
  /-- Nothing was read. -/
  | start
  /-- Within a level or a target. -/
  | name (start : Nat)
  /-- Behind an opening bracket. -/
  | span (start : Nat)
  /-- Behind an opening brace. -/
  | field (start : Nat)
  /-- Behind a closing brace. -/
  | fieldClosed
  /-- Behind a closing bracket. -/
  | spanClosed
  /-- Behind an equals sign. -/
  | level (start : Nat)
  deriving Repr, DecidableEq

/-- What a level or target can start with. -/
def startsName (c : Char) : Bool :=
  c = '-' || c = ':' || c = '_' || isAlphanumeric c

namespace Directive

/-- Read the character at an offset. -/
def step (whole : List Char) (offset : Nat) (place : Place) (directive : Directive)
    (c : Char) : Except DirectiveFault (Place × Directive) :=
  match place with
  | .start =>
    if c = '[' then .ok (.span (offset + 1), directive)
    else if startsName c then .ok (.name offset, directive)
    else .error .malformed
  | .name start =>
    if c = '=' then do
      return (.level (offset + 1), { directive with target := ← piece start offset whole })
    else if c = '[' then do
      return (.span (offset + 1), { directive with target := ← piece start offset whole })
    else .ok (place, directive)
  | .span start =>
    if c = ']' then do
      let _ ← piece start offset whole
      return (.spanClosed, { directive with inSpan := true })
    else if c = '\x7b' then do
      let name ← piece start offset whole
      return (.field (offset + 1), { directive with inSpan := !name.isEmpty })
    else .ok (place, directive)
  | .field start =>
    if c = '\x7d' then do
      let test ← fieldTest (← piece start offset whole)
      return (.fieldClosed, { directive with field := test })
    else .ok (place, directive)
  | .fieldClosed => if c = ']' then .ok (.spanClosed, directive) else .error .malformed
  | .spanClosed => if c = '=' then .ok (.level (offset + 1), directive) else .error .malformed
  | .level _ => .ok (place, directive)

/-- What is read at the end.  A name is a level if there is one of that name, and else a
target; behind the equals sign no name stands for full detail. -/
def finish (whole : List Char) (place : Place) (directive : Directive) :
    Except DirectiveFault Directive :=
  match place with
  | .name start => do
    let name ← dropBytes start whole
    match detail? name with
    | some detail => return { directive with detail }
    | none => return { directive with target := name }
  | .level start => do
    let name ← dropBytes start whole
    if name.isEmpty then return directive
    else
      match detail? name with
      | some detail => return { directive with detail }
      | none => .error .malformed
  | .spanClosed => .ok directive
  | _ => .error .malformed

/-- Read the characters from an offset on. -/
def read (whole : List Char) (offset : Nat) (place : Place) (directive : Directive) :
    List Char → Except DirectiveFault Directive
  | [] => directive.finish whole place
  | c :: rest => do
    let (place, directive) ← directive.step whole offset place c
    read whole (offset + c.utf8Size) place directive rest

/-- The directive that a text describes. -/
def parse (text : List Char) : Except DirectiveFault Directive :=
  read text 0 .start {} (trim text)

/-- The directive applies to events of which no span and no value is known. -/
def isStatic (directive : Directive) : Bool :=
  !directive.inSpan && directive.field != some .valued

/-- The name of the particular that an event must have. -/
def fieldName? (directive : Directive) : Option String :=
  match directive.field with
  | some (.named name) => some name
  | _ => none

end Directive

end Horizon.Log
