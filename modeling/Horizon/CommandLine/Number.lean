/-
  Horizon.CommandLine.Number
  ──────────────────────────
  **NUMBERS ON THE COMMAND LINE.**

  A word is decimal, or hexadecimal behind `0x`, with underscores anywhere among its
  digits.  A result code is a word or a negative decimal number, so that every form in
  which a code is printed can be given back.
-/
import Horizon.ResultCode
import Horizon.Text.Blank
import Horizon.Text.Quoted

namespace Horizon.CommandLine

open Text

/-- A text that is not the number that was asked for. -/
inductive NumberError where
  /-- It is no word; white space around the text is left out. -/
  | word (text : String) (cause : NumeralError)
  /-- It starts like a negative result code and is none. -/
  | code (text : String) (cause : NumeralError)
  deriving Repr, DecidableEq

/-- The error in words. -/
def NumberError.message : NumberError → String
  | .word text cause => s!"invalid number {quote text}: {cause.message}"
  | .code text cause => s!"invalid result code {quote text}: {cause.message}"

/-- The greatest word. -/
def wordLimit : Nat := 0xFFFF_FFFF

/-- The characters without underscores. -/
def withoutUnderscores (text : List Char) : List Char :=
  text.filter (· != '_')

/-- Read a word that has no white space around it. -/
def readWord : List Char → Except NumeralError Nat
  | '0' :: 'x' :: digits => readUnsigned 16 wordLimit (withoutUnderscores digits)
  | '0' :: 'X' :: digits => readUnsigned 16 wordLimit (withoutUnderscores digits)
  | text => readUnsigned 10 wordLimit (withoutUnderscores text)

/-- Read a word. -/
def parseWord (input : String) : Except NumberError UInt32 :=
  let text := trim input.toList
  match readWord text with
  | .ok n => .ok (UInt32.ofNat n)
  | .error cause => .error (.word (String.ofList text) cause)

/-- Read a result code. -/
def parseResultCode (input : String) : Except NumberError ResultCode :=
  if (trimStart input.toList).head? = some '-' then
    match readSigned 10 0x7FFF_FFFF (trim input.toList) with
    | .ok i => .ok (.ofInt i)
    | .error cause => .error (.code input cause)
  else (parseWord input).map ResultCode.mk

end Horizon.CommandLine
