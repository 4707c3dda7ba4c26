/-
  Horizon.Text.Quoted
  ───────────────────
  **TEXTS IN QUOTATION MARKS.**

  Messages show foreign text between double quotes, with escapes for the quote, the
  backslash and whatever would not be seen.
-/
import Horizon.Text.Printable
import Horizon.Text.Numeral

namespace Horizon.Text

/-- How one character is written between quotes. -/
def escape (c : Char) : List Char :=
  if c = '"' then ['\\', '"']
  else if c = '\\' then ['\\', '\\']
  else if c = '\n' then ['\\', 'n']
  else if c = '\r' then ['\\', 'r']
  else if c = '\t' then ['\\', 't']
  else if c.toNat = 0 then ['\\', '0']
  else if isPrintable c then [c]
  else "\\u\x7b".toList ++ Nat.toDigits 16 c.toNat ++ "\x7d".toList

/-- The text between double quotes. -/
def quote (text : String) : String :=
  String.ofList ('"' :: (text.toList.flatMap escape ++ ['"']))

end Horizon.Text
