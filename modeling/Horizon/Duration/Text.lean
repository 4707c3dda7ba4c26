/-
  Horizon.Duration.Text
  ─────────────────────
  **DURATIONS AS TEXT.**

  A written duration is a sequence of numbers with units, `2h 30m` or `1.5s`.  Reading
  keeps to exact arithmetic: a number that overflows a 64-bit word, or a fraction that
  is no whole number of nanoseconds (of seconds, from the hour up), is refused.
  Writing gives the non-zero parts from years down to nanoseconds.

  Errors name the byte offset at which reading stopped.
-/
import Horizon.Duration
import Horizon.Text.Blank
import Horizon.Text.Quoted

namespace Horizon.Duration

open Text

/-! ## §1. Units. -/

/-- What a count of some unit is turned into. -/
inductive Base where
  /-- Nanoseconds. -/
  | nanoseconds
  /-- Whole seconds. -/
  | seconds
  deriving Repr, DecidableEq

/-- A unit of time. -/
structure TimeUnit where
  /-- The names it goes by. -/
  names : List String
  /-- What whole numbers of it are counted in. -/
  base : Base
  /-- The size of one, in that base. -/
  size : Nat
  /-- What fractions of it are counted in, and its size there. -/
  fraction : Option (Base × Nat)
  deriving Repr

/-- Seconds in a month: a twelfth of a year of 365.25 days, to the minute. -/
def monthSeconds : Nat := 2630016

/-- Seconds in a year of 365.25 days. -/
def yearSeconds : Nat := 31557600

/-- Every unit, from the smallest. -/
def timeUnits : List TimeUnit :=
  [⟨["nanos", "nsec", "ns"], .nanoseconds, 1, none⟩,
   ⟨["usec", "us", "µs"], .nanoseconds, 1000, some (.nanoseconds, 1000)⟩,
   ⟨["millis", "msec", "ms"], .nanoseconds, 1_000_000, some (.nanoseconds, 1_000_000)⟩,
   ⟨["seconds", "second", "secs", "sec", "s"], .seconds, 1, some (.nanoseconds, 1_000_000_000)⟩,
   ⟨["minutes", "minute", "min", "mins", "m"], .seconds, 60,
    some (.nanoseconds, 60_000_000_000)⟩,
   ⟨["hours", "hour", "hr", "hrs", "h"], .seconds, 3600, some (.seconds, 3600)⟩,
   ⟨["days", "day", "d"], .seconds, 86400, some (.seconds, 86400)⟩,
   ⟨["weeks", "week", "wk", "wks", "w"], .seconds, 604800, some (.seconds, 604800)⟩,
   ⟨["months", "month", "M"], .seconds, monthSeconds, some (.seconds, monthSeconds)⟩,
   ⟨["years", "year", "yr", "yrs", "y"], .seconds, yearSeconds, some (.seconds, yearSeconds)⟩]

/-- The unit of that name. -/
def timeUnit? (name : String) : Option TimeUnit :=
  timeUnits.find? (·.names.contains name)

/-! ## §2. Reading. -/

/-- Why a text is no duration. -/
inductive ParseError where
  /-- There is nothing but white space. -/
  | empty
  /-- A number should follow at the offset, behind white space at most. -/
  | numberExpected (offset : Nat)
  /-- The character at the offset has no place in a duration. -/
  | invalidCharacter (offset : Nat)
  /-- A number is too large or not exact. -/
  | overflow
  /-- The number has no unit. -/
  | unitNeeded (value : Nat)
  /-- The unit has no meaning. -/
  | unknownUnit (name : String)
  /-- The nanoseconds fill up one second more than there are.  Reading breaks off here
  without a report. -/
  | exhausted
  deriving Repr, DecidableEq

/-- The error in words. -/
def ParseError.message : ParseError → String
  | .empty => "value was empty"
  | .numberExpected offset => s!"expected number at {offset}"
  | .invalidCharacter offset => s!"invalid character at {offset}"
  | .overflow =>
    "number is too large or cannot be represented without a lack of precision (values below 1ns are not supported)"
  | .unitNeeded value => s!"time unit needed, for example {value}sec or {value}ms"
  | .unknownUnit name =>
    s!"unknown time unit {quote name}, supported units: ns, us/µs, ms, sec, min, hours, days, weeks, months, years (and few variations)"
  | .exhausted => "there are no more seconds"

/-- The letters that units are made of. -/
def isUnitLetter (c : Char) : Bool :=
  ('a' ≤ c && c ≤ 'z') || ('A' ≤ c && c ≤ 'Z') || c = 'µ'

/-- The value of a decimal digit. -/
def digit? (c : Char) : Option Nat := digitValue? 10 c

/-- The number, if it fits a 64-bit word. -/
def word (n : Nat) : Except ParseError Nat :=
  if n < 0x1_0000_0000_0000_0000 then .ok n else .error .overflow

/-- Skip white space up to a digit: its value, the offset behind it and the rest.
Nothing is left if the text ends first.  An error names the offset `start` at which the
white space begins. -/
def firstDigit (start offset : Nat) :
    List Char → Except ParseError (Option (Nat × Nat × List Char))
  | [] => .ok none
  | c :: rest =>
    match digit? c with
    | some digit => .ok (some (digit, offset + c.utf8Size, rest))
    | none =>
      if isBlank c then firstDigit start (offset + c.utf8Size) rest
      else .error (.numberExpected start)

/-- A decimal fraction. -/
structure Fraction where
  /-- The digits behind the point. -/
  numerator : Nat
  /-- The power of ten that they count. -/
  denominator : Nat
  deriving Repr, DecidableEq

/-- Read the digits behind a point, up to a letter or the end: the fraction, the offset
of the letter and the rest from there on.  `accepted` is the offset that an error
names: the point's own until a character behind it was accepted. -/
def readFraction (fraction : Fraction) (accepted offset : Nat) :
    List Char → Except ParseError (Fraction × Nat × List Char)
  | [] =>
    if fraction.denominator = 1 then .error (.invalidCharacter accepted)
    else .ok (fraction, offset, [])
  | c :: rest =>
    match digit? c with
    | some digit => do
      let denominator ← word (fraction.denominator * 10)
      let numerator ← word (fraction.numerator * 10 + digit)
      let next := offset + c.utf8Size
      readFraction ⟨numerator, denominator⟩ next next rest
    | none =>
      if isBlank c then
        let next := offset + c.utf8Size
        readFraction fraction next next rest
      else if isUnitLetter c then
        if fraction.denominator = 1 then .error (.invalidCharacter accepted)
        else .ok (fraction, offset, c :: rest)
      else .error (.invalidCharacter accepted)

/-- Read the further digits of a number, white space between them aside, up to a letter
or the end: the number, its fraction, the offset of the letter and the rest. -/
def readNumber (value offset : Nat) :
    List Char → Except ParseError (Nat × Option Fraction × Nat × List Char)
  | [] => .ok (value, none, offset, [])
  | c :: rest =>
    match digit? c with
    | some digit => do
      let value ← word (value * 10 + digit)
      readNumber value (offset + c.utf8Size) rest
    | none =>
      if isBlank c then readNumber value (offset + c.utf8Size) rest
      else if isUnitLetter c then .ok (value, none, offset, c :: rest)
      else if c = '.' then do
        let (fraction, offset, rest) ←
          readFraction ⟨0, 1⟩ offset (offset + c.utf8Size) rest
        .ok (value, some fraction, offset, rest)
      else .error (.invalidCharacter offset)

/-- Read the letters of a unit, up to white space, a digit or the end: the letters, the
offset and the rest.  White space that ends the unit is passed. -/
def readUnit (offset : Nat) : List Char → Except ParseError (List Char × Nat × List Char)
  | [] => .ok ([], offset, [])
  | c :: rest =>
    if (digit? c).isSome then .ok ([], offset, c :: rest)
    else if isBlank c then .ok ([], offset + c.utf8Size, rest)
    else if isUnitLetter c then do
      let (letters, offset, rest) ← readUnit (offset + c.utf8Size) rest
      .ok (c :: letters, offset, rest)
    else .error (.invalidCharacter offset)

/-- Add an amount to the nanoseconds counted so far.  A sum out of range is an overflow,
except when it is the nanoseconds that fill up exactly one second. -/
def addAmount (total : Nat) (base : Base) (amount : Nat) : Except ParseError Nat := do
  let limit := 0x1_0000_0000_0000_0000 * 1_000_000_000
  match base with
  | .nanoseconds => do
    let subsecond ← word (total % 1_000_000_000 + amount)
    if total + amount < limit then .ok (total + amount)
    else if subsecond = 1_000_000_000 then .error .exhausted
    else .error .overflow
  | .seconds =>
    if total + amount * 1_000_000_000 < limit then .ok (total + amount * 1_000_000_000)
    else .error .overflow

/-- Add a number of some unit to the nanoseconds counted so far. -/
def addNumber (total value : Nat) (fraction : Option Fraction) (unit : TimeUnit) :
    Except ParseError Nat := do
  let amount ← word (value * unit.size)
  let total ← addAmount total unit.base amount
  match fraction with
  | none => .ok total
  | some part =>
    match unit.fraction with
    | none => .error .overflow
    | some (base, size) => do
      let scaled ← word (part.numerator * size)
      if scaled % part.denominator = 0 then addAmount total base (scaled / part.denominator)
      else .error .overflow

/-- The unit that the letters behind a number name. -/
def unitNamed (value : Nat) (letters : List Char) : Except ParseError TimeUnit :=
  match timeUnit? (String.ofList letters) with
  | some unit => .ok unit
  | none =>
    if letters.isEmpty then .error (.unitNeeded value)
    else .error (.unknownUnit (String.ofList letters))

/-- Read numbers with units until the text ends, at most `fuel` of them.  Each takes a
character at least, so the length of the text is fuel enough. -/
def readParts (total : Nat) (first : Bool) (offset : Nat) (text : List Char) :
    (fuel : Nat) → Except ParseError Nat
  | 0 => .ok total
  | fuel + 1 => do
    match ← firstDigit offset offset text with
    | none => if first then .error .empty else .ok total
    | some (digit, offset, rest) =>
      let (value, fraction, offset, rest) ← readNumber digit offset rest
      let (letters, offset, rest) ← readUnit offset rest
      let unit ← unitNamed value letters
      let total ← addNumber total value fraction unit
      readParts total false offset rest fuel

/-- Read a duration.  A lone zero needs no unit. -/
def parse (text : String) : Except ParseError Duration := do
  if text = "0" then .ok zero
  else
    let total ← readParts 0 true 0 text.toList (text.toList.length + 1)
    match ofNanoseconds? total with
    | some duration => .ok duration
    | none => .error .overflow

/-! ## §3. Writing. -/

/-- A part with a plural: `1day`, `2days`; nothing for zero. -/
def countedPart (name : String) (n : Nat) : List String :=
  if n = 0 then [] else [s!"{n}{name}" ++ if n = 1 then "" else "s"]

/-- A part with a fixed unit: `5h`; nothing for zero. -/
def unitPart (name : String) (n : Nat) : List String :=
  if n = 0 then [] else [s!"{n}{name}"]

/-- The non-zero parts of a duration, from years down to nanoseconds. -/
def parts (d : Duration) : List String :=
  let inYear := d.seconds % yearSeconds
  let inMonth := inYear % monthSeconds
  let inDay := inMonth % 86400
  countedPart "year" (d.seconds / yearSeconds) ++
    countedPart "month" (inYear / monthSeconds) ++
    countedPart "day" (inMonth / 86400) ++
    unitPart "h" (inDay / 3600) ++
    unitPart "m" (inDay % 3600 / 60) ++
    unitPart "s" (inDay % 60) ++
    unitPart "ms" (d.subsecond / 1_000_000) ++
    unitPart "us" (d.subsecond / 1000 % 1000) ++
    unitPart "ns" (d.subsecond % 1000)

/-- The duration as text that reads back as the same duration. -/
def text (d : Duration) : String :=
  if d.nanoseconds = 0 then "0s" else " ".intercalate d.parts

/-- A number with a decimal fraction of `width` places, without zeros at its end. -/
def withFraction (whole fraction width : Nat) : String :=
  let digits := decimal fraction
  let padded := List.replicate (width - digits.length) '0' ++ digits
  let kept := (padded.reverse.dropWhile (· = '0')).reverse
  s!"{whole}" ++ if kept.isEmpty then "" else "." ++ String.ofList kept

/-- The duration in the largest of four units that is not above it, with a decimal
fraction: `1.5ms`. -/
def brief (d : Duration) : String :=
  if d.seconds ≠ 0 then withFraction d.seconds d.subsecond 9 ++ "s"
  else if 1_000_000 ≤ d.subsecond then
    withFraction (d.subsecond / 1_000_000) (d.subsecond % 1_000_000) 6 ++ "ms"
  else if 1000 ≤ d.subsecond then
    withFraction (d.subsecond / 1000) (d.subsecond % 1000) 3 ++ "µs"
  else s!"{d.subsecond}ns"

end Horizon.Duration
