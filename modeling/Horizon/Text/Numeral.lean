/-
  Horizon.Text.Numeral
  ────────────────────
  **WHOLE NUMBERS AS TEXT.**

  Reading takes an optional sign and then digits only, and says which of four things
  is wrong.  Digits are taken from the left, so a text that both overflows and holds
  a stray character is blamed for whichever comes first.  Writing is decimal without
  leading zeros, or hexadecimal of a fixed width.
-/
namespace Horizon.Text

/-! ## §1. Digits. -/

/-- The value of an ASCII digit or letter as a digit of the radix. -/
def digitValue? (radix : Nat) (c : Char) : Option Nat :=
  let code := c.toNat
  let value :=
    if 48 ≤ code && code ≤ 57 then code - 48
    else if 65 ≤ code && code ≤ 90 then code - 55
    else if 97 ≤ code && code ≤ 122 then code - 87
    else radix
  if value < radix then some value else none

/-- The hexadecimal digit of a value below sixteen, in capitals. -/
def upperHexDigit (value : Nat) : Char :=
  if value < 10 then Char.ofNat (48 + value) else Char.ofNat (55 + value)

/-- The hexadecimal digit of a value below sixteen, in small letters. -/
def lowerHexDigit (value : Nat) : Char :=
  if value < 10 then Char.ofNat (48 + value) else Char.ofNat (87 + value)

/-! ## §2. Writing. -/

/-- Decimal digits without leading zeros. -/
def decimal (n : Nat) : List Char :=
  Nat.toDigits 10 n

/-- A decimal number with a sign if it is negative. -/
def signedDecimal : Int → List Char
  | .ofNat n => decimal n
  | .negSucc n => '-' :: decimal (n + 1)

/-- The last `width` hexadecimal digits, written with `digit`. -/
def fixedHex (digit : Nat → Char) : (width : Nat) → Nat → List Char
  | 0, _ => []
  | width + 1, n => fixedHex digit width (n / 16) ++ [digit (n % 16)]

/-- A 32-bit word as `0x` and eight capital hexadecimal digits. -/
def hexWord (word : UInt32) : String :=
  String.ofList ('0' :: 'x' :: fixedHex upperHexDigit 8 word.toNat)

/-! ## §3. Reading. -/

/-- Why a text is not the number that was asked for. -/
inductive NumeralError where
  /-- There is no digit at all. -/
  | empty
  /-- A character is no digit of the radix. -/
  | invalidDigit
  /-- The number lies above the greatest one allowed. -/
  | tooLarge
  /-- The number lies below the least one allowed. -/
  | tooSmall
  deriving Repr, DecidableEq

/-- The error in words. -/
def NumeralError.message : NumeralError → String
  | .empty => "cannot parse integer from empty string"
  | .invalidDigit => "invalid digit found in string"
  | .tooLarge => "number too large to fit in target type"
  | .tooSmall => "number too small to fit in target type"

/-- Take digits from the left onto what has been read so far; `overflow` is the
error of a value above `limit`. -/
def readDigits (radix limit : Nat) (overflow : NumeralError) :
    Nat → List Char → Except NumeralError Nat
  | value, [] => .ok value
  | value, c :: rest =>
    match digitValue? radix c with
    | none => .error .invalidDigit
    | some digit =>
      if limit < value * radix + digit then .error overflow
      else readDigits radix limit overflow (value * radix + digit) rest

/-- Read digits of which there must be one at least: what follows a sign. -/
def readMagnitude (radix limit : Nat) (overflow : NumeralError) (text : List Char) :
    Except NumeralError Nat :=
  if text.isEmpty then .error .invalidDigit else readDigits radix limit overflow 0 text

/-- Read a number from 0 to `limit`, with an optional plus sign. -/
def readUnsigned (radix limit : Nat) : List Char → Except NumeralError Nat
  | [] => .error .empty
  | '+' :: rest => readMagnitude radix limit .tooLarge rest
  | text => readDigits radix limit .tooLarge 0 text

/-- Read a number from `-limit - 1` to `limit`, with an optional sign. -/
def readSigned (radix limit : Nat) : List Char → Except NumeralError Int
  | [] => .error .empty
  | '+' :: rest => (readMagnitude radix limit .tooLarge rest).map Int.ofNat
  | '-' :: rest => (readMagnitude radix (limit + 1) .tooSmall rest).map fun n => -(n : Int)
  | text => (readDigits radix limit .tooLarge 0 text).map Int.ofNat

end Horizon.Text
