/-
  Horizon.Document.Toml.Scalar
  ────────────────────────────
  **NUMBERS, DATES AND TRUTH VALUES IN TOML.**

  What a scalar without quotes may hold never follows a value, so such a scalar is read
  as one word and the word must be, as a whole, one of the forms.
-/
import Horizon.Document
import Horizon.Text.Blank
import Horizon.Text.Numeral

namespace Horizon.Toml

open Binary Text

/-! ## §1. Digits. -/

/-- Digits of a radix with single underscores between them: their values.  There must be
one digit at least, at either end. -/
def digitRun (radix : Nat) : List Char → Option (List Nat)
  | [] => none
  | [c] => (digitValue? radix c).map fun digit => [digit]
  | c :: '_' :: rest => do
    let digit ← digitValue? radix c
    let digits ← digitRun radix rest
    some (digit :: digits)
  | c :: rest => do
    let digit ← digitValue? radix c
    let digits ← digitRun radix rest
    some (digit :: digits)

/-- The number that digits write. -/
def digitsValue (radix : Nat) (digits : List Nat) : Nat :=
  digits.foldl (fun value digit => value * radix + digit) 0

/-- The digits of a whole number: no zero in front of others. -/
def wholeRun (word : List Char) : Option (List Nat) := do
  let digits ← digitRun 10 word
  if digits.head? = some 0 && digits.length > 1 then none else some digits

/-- Split a sign off: whether it is a minus, and the rest. -/
def splitSign : List Char → Bool × List Char
  | '-' :: rest => (true, rest)
  | '+' :: rest => (false, rest)
  | rest => (false, rest)

/-! ## §2. Numbers. -/

/-- A whole number of 64 bits with a sign: decimal, or without a sign and in another
radix behind `0x`, `0o` or `0b`. -/
def integer? (word : List Char) : Option Int :=
  match word with
  | '0' :: 'x' :: rest => inRadix 16 rest
  | '0' :: 'o' :: rest => inRadix 8 rest
  | '0' :: 'b' :: rest => inRadix 2 rest
  | _ => do
    let (negative, rest) := splitSign word
    let magnitude := digitsValue 10 (← wholeRun rest)
    if negative then
      if magnitude ≤ 0x8000_0000_0000_0000 then some (-(magnitude : Int)) else none
    else if magnitude < 0x8000_0000_0000_0000 then some magnitude else none
where
  /-- A number without a sign. -/
  inRadix (radix : Nat) (word : List Char) : Option Int := do
    let magnitude := digitsValue radix (← digitRun radix word)
    if magnitude < 0x8000_0000_0000_0000 then some magnitude else none

/-- The part of a word before the first character that `test` accepts, and the part
behind that character if there is one. -/
def cut (test : Char → Bool) (word : List Char) : List Char × Option (List Char) :=
  match word.dropWhile (!test ·) with
  | [] => (word, none)
  | _ :: rest => (word.takeWhile (!test ·), some rest)

/-- A floating-point number: with a fraction, an exponent or both.  A positive number
beyond the range is refused. -/
def decimalNumber? (word : List Char) : Option Double := do
  let (negative, rest) := splitSign word
  let (mantissa, exponent) := cut (fun c => c = 'e' || c = 'E') rest
  let (whole, fraction) := cut (· = '.') mantissa
  if fraction.isNone && exponent.isNone then none
  else
    let whole ← wholeRun whole
    let fraction ←
      match fraction with
      | none => some []
      | some word => digitRun 10 word
    let scale : Int ←
      match exponent with
      | none => some 0
      | some word =>
        let (negative, rest) := splitSign word
        (digitRun 10 rest).map fun digits =>
          let n : Int := digitsValue 10 digits
          if negative then -n else n
    let number :=
      Double.ofDecimal negative (digitsValue 10 (whole ++ fraction)) (scale - fraction.length)
    if number.datum = .infinite false then none else some number

/-- Infinity, or not a number, with or without a sign. -/
def specialNumber? (word : List Char) : Option Double :=
  let (negative, rest) := splitSign word
  let datum (d : Bool → Datum) : Double := ⟨UInt64.ofNat (Format.double.ofDatum (d negative))⟩
  if rest = "inf".toList then some (datum .infinite)
  else if rest = "nan".toList then some (datum .nan)
  else none

/-! ## §3. Dates and times. -/

/-- So many decimal digits: their value and the rest. -/
def fixedDigits : (count : Nat) → (value : Nat) → List Char → Option (Nat × List Char)
  | 0, value, word => some (value, word)
  | _ + 1, _, [] => none
  | count + 1, value, c :: rest => do
    fixedDigits count (value * 10 + (← digitValue? 10 c)) rest

/-- The days of a month. -/
def monthDays (year month : Nat) : Nat :=
  if month = 2 then
    if year % 4 = 0 && (year % 100 ≠ 0 || year % 400 = 0) then 29 else 28
  else if month = 4 || month = 6 || month = 9 || month = 11 then 30
  else 31

/-- A date of the calendar at the start of a word: what follows it. -/
def afterDate (word : List Char) : Option (List Char) := do
  let (year, rest) ← fixedDigits 4 0 word
  let rest ← expect '-' rest
  let (month, rest) ← fixedDigits 2 0 rest
  let rest ← expect '-' rest
  let (day, rest) ← fixedDigits 2 0 rest
  if 1 ≤ month && month ≤ 12 && 1 ≤ day && day ≤ monthDays year month then some rest else none
where
  /-- The rest behind a character that must come next. -/
  expect (c : Char) : List Char → Option (List Char)
    | [] => none
    | head :: rest => if head = c then some rest else none

/-- Hours and minutes at the start of a word: what follows them. -/
def afterMinutes (word : List Char) : Option (List Char) := do
  let (hour, rest) ← fixedDigits 2 0 word
  let rest ← afterDate.expect ':' rest
  let (minute, rest) ← fixedDigits 2 0 rest
  if hour ≤ 23 && minute ≤ 59 then some rest else none

/-- A time of day at the start of a word, leap seconds included: what follows it. -/
def afterTime (word : List Char) : Option (List Char) := do
  let rest ← afterMinutes word
  let rest ← afterDate.expect ':' rest
  let (second, rest) ← fixedDigits 2 0 rest
  if second ≤ 60 then
    match rest with
    | '.' :: fraction =>
      if (fraction.head?.map Char.isDigit).getD false then some (fraction.dropWhile Char.isDigit)
      else none
    | rest => some rest
  else none

/-- The word is a distance from universal time. -/
def isOffset (word : List Char) : Bool :=
  match word with
  | ['Z'] => true
  | ['z'] => true
  | '+' :: rest => afterMinutes rest = some []
  | '-' :: rest => afterMinutes rest = some []
  | _ => false

/-- The word is a time of day with or without a distance from universal time. -/
def isOffsetTime (word : List Char) : Bool :=
  match afterTime word with
  | none => false
  | some rest => rest.isEmpty || isOffset rest

/-- The word is a date, a time of day, or both joined by a `T`. -/
def isTimestamp (word : List Char) : Bool :=
  match afterDate word with
  | some [] => true
  | some (c :: time) => (c = 'T' || c = 't') && isOffsetTime time
  | none => afterTime word = some []

/-! ## §4. Words. -/

/-- The characters that scalars without quotes are made of. -/
def isWordChar (c : Char) : Bool :=
  c.isAlphanum || c = '_' || c = '-' || c = '+' || c = '.' || c = ':'

/-- The document that a word writes. -/
def scalar? (word : List Char) : Option Document :=
  if word = "true".toList then some (.boolean true)
  else if word = "false".toList then some (.boolean false)
  else if isTimestamp word then some (.timestamp (String.ofList word))
  else
    match integer? word with
    | some value => some (.integer value)
    | none => ((decimalNumber? word).or (specialNumber? word)).map .double

/-- Read a scalar without quotes.  A date may be joined to a time by a single space. -/
def readScalar (text : List Char) : Option (Document × List Char) :=
  let word := text.takeWhile isWordChar
  let rest := text.dropWhile isWordChar
  let joined := rest.drop 1
  let time := joined.takeWhile isWordChar
  if afterDate word = some [] && rest.head? = some ' ' && isOffsetTime time then
    some (.timestamp (String.ofList (word ++ ' ' :: time)), joined.dropWhile isWordChar)
  else (scalar? word).map fun value => (value, rest)

end Horizon.Toml
