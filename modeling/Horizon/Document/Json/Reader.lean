/-
  Horizon.Document.Json.Reader
  ────────────────────────────
  **READING JSON TEXT.**

  Tables come out in the order of their names, the last entry of a name counting.  A
  number without point and exponent is an integer as long as it fits 64 bits; every other
  number, and negative zero, is the nearest 64-bit floating-point number.
-/
import Horizon.Document
import Horizon.Text.Numeral

namespace Horizon.Json

open Binary Text

/-! ## §1. Tokens. -/

/-- Skip blanks and line ends. -/
def skip (text : List Char) : List Char :=
  text.dropWhile fun c => c = ' ' || c = '\n' || c = '\r' || c = '\t'

/-- The value of hexadecimal digits. -/
def hexValue (digits : List Char) : Option Nat :=
  match readMagnitude 16 0xFFFFFFFF .tooLarge digits with
  | .ok n => some n
  | .error _ => none

/-- The character that a single-letter escape stands for. -/
def simpleEscape? (c : Char) : Option Char :=
  if c = '"' || c = '\\' || c = '/' then some c
  else if c = 'b' then some (Char.ofNat 8)
  else if c = 'f' then some (Char.ofNat 12)
  else if c = 'n' then some '\n'
  else if c = 'r' then some '\r'
  else if c = 't' then some '\t'
  else none

/-- A character outside the first plane, from its two surrogates. -/
def joinSurrogates (high low : Nat) : Char :=
  Char.ofNat (0x10000 + (high - 0xD800) * 0x400 + (low - 0xDC00))

/-- Read a text up to its closing quote. -/
def readText : (fuel : Nat) → List Char → Option (List Char × List Char)
  | 0, _ => none
  | fuel + 1, text =>
    match text with
    | [] => none
    | '"' :: rest => some ([], rest)
    | '\\' :: 'u' :: a :: b :: c :: d :: rest => do
      let unit ← hexValue [a, b, c, d]
      if 0xD800 ≤ unit && unit < 0xDC00 then
        match rest with
        | '\\' :: 'u' :: e :: f :: g :: h :: rest => do
          let low ← hexValue [e, f, g, h]
          if 0xDC00 ≤ low && low < 0xE000 then
            let (more, rest) ← readText fuel rest
            some (joinSurrogates unit low :: more, rest)
          else none
        | _ => none
      else if 0xDC00 ≤ unit && unit < 0xE000 then none
      else do
        let (more, rest) ← readText fuel rest
        some (Char.ofNat unit :: more, rest)
    | '\\' :: c :: rest => do
      let meant ← simpleEscape? c
      let (more, rest) ← readText fuel rest
      some (meant :: more, rest)
    | c :: rest =>
      if c.toNat < 0x20 then none
      else do
        let (more, rest) ← readText fuel rest
        some (c :: more, rest)

/-- The digits a text starts with, and the rest. -/
def takeDigits (text : List Char) : List Char × List Char :=
  (text.takeWhile Char.isDigit, text.dropWhile Char.isDigit)

/-- Read the exponent of a number, if it has one. -/
def readExponent : List Char → Option (Option Int × List Char)
  | 'e' :: rest => go rest
  | 'E' :: rest => go rest
  | rest => some (none, rest)
where
  /-- The digits of the exponent, with their sign. -/
  go (text : List Char) : Option (Option Int × List Char) :=
    let (negative, text) :=
      match text with
      | '-' :: rest => (true, rest)
      | '+' :: rest => (false, rest)
      | rest => (false, rest)
    let (digits, rest) := takeDigits text
    if digits.isEmpty then none
    else
      let n : Int := Nat.ofDigitChars 10 digits 0
      some (some (if negative then -n else n), rest)

/-- Read a number. -/
def readNumber (text : List Char) : Option (Document × List Char) := do
  let (negative, text) :=
    match text with
    | '-' :: rest => (true, rest)
    | rest => (false, rest)
  let (whole, rest) := takeDigits text
  if whole.isEmpty || (whole.length > 1 && whole.head? = some '0') then none
  else
    let (fraction, pointed, rest) ←
      match rest with
      | '.' :: rest =>
        let (digits, rest) := takeDigits rest
        if digits.isEmpty then none else some (digits, true, rest)
      | rest => some ([], false, rest)
    let (exponent, rest) ← readExponent rest
    let coefficient := Nat.ofDigitChars 10 (whole ++ fraction) 0
    let number :=
      Document.double (.ofDecimal negative coefficient (exponent.getD 0 - fraction.length))
    if pointed || exponent.isSome then some (number, rest)
    else if negative then
      if coefficient = 0 || 0x8000_0000_0000_0000 < coefficient then some (number, rest)
      else some (.integer (-coefficient), rest)
    else if coefficient < 0x1_0000_0000_0000_0000 then some (.integer coefficient, rest)
    else some (number, rest)

/-! ## §2. Documents. -/

/-- Put an entry in its place among entries in the order of their names. -/
def insertEntry (name : String) (value : Document) :
    List (String × Document) → List (String × Document)
  | [] => [(name, value)]
  | (other, old) :: rest =>
    if name = other then (name, value) :: rest
    else if name < other then (name, value) :: (other, old) :: rest
    else (other, old) :: insertEntry name value rest

mutual

/-- Read a document. -/
def readValue : (fuel : Nat) → List Char → Option (Document × List Char)
  | 0, _ => none
  | fuel + 1, text =>
    match skip text with
    | 'n' :: 'u' :: 'l' :: 'l' :: rest => some (.null, rest)
    | 't' :: 'r' :: 'u' :: 'e' :: rest => some (.boolean true, rest)
    | 'f' :: 'a' :: 'l' :: 's' :: 'e' :: rest => some (.boolean false, rest)
    | '"' :: rest => do
      let (value, rest) ← readText (rest.length + 1) rest
      some (.text (String.ofList value), rest)
    | '[' :: rest =>
      match skip rest with
      | ']' :: rest => some (.list [], rest)
      | rest => do
        let (items, rest) ← readItems fuel rest
        some (.list items, rest)
    | '\x7b' :: rest =>
      match skip rest with
      | '\x7d' :: rest => some (.table [], rest)
      | rest => do
        let (entries, rest) ← readEntries fuel rest
        some (.table (entries.foldl (fun sorted e => insertEntry e.1 e.2 sorted) []), rest)
    | rest => readNumber rest

/-- Read the items of a list and its closing bracket. -/
def readItems : (fuel : Nat) → List Char → Option (List Document × List Char)
  | 0, _ => none
  | fuel + 1, text => do
    let (item, rest) ← readValue fuel text
    match skip rest with
    | ',' :: rest => do
      let (items, rest) ← readItems fuel rest
      some (item :: items, rest)
    | ']' :: rest => some ([item], rest)
    | _ => none

/-- Read the entries of a table and its closing brace. -/
def readEntries : (fuel : Nat) → List Char → Option (List (String × Document) × List Char)
  | 0, _ => none
  | fuel + 1, text =>
    match skip text with
    | '"' :: rest => do
      let (name, rest) ← readText (rest.length + 1) rest
      match skip rest with
      | ':' :: rest => do
        let (value, rest) ← readValue fuel rest
        let entry := (String.ofList name, value)
        match skip rest with
        | ',' :: rest => do
          let (entries, rest) ← readEntries fuel rest
          some (entry :: entries, rest)
        | '\x7d' :: rest => some ([entry], rest)
        | _ => none
      | _ => none
    | _ => none

end

/-- The document that a text writes, with nothing but blanks behind it. -/
def parse (text : String) : Option Document := do
  let chars := text.toList
  let (value, rest) ← readValue (chars.length + 1) chars
  if (skip rest).isEmpty then some value else none

end Horizon.Json
