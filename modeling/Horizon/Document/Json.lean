/-
  Horizon.Document.Json
  ─────────────────────
  **DOCUMENTS AS JSON TEXT.**

  Written on one line without blanks, or indented by two spaces.  A floating-point number
  is written with the fewest digits that read back in its own format; what JSON has no
  number for is written as null.
-/
import Horizon.Document.Decode

namespace Horizon.Json

open Binary Text

/-! ## §1. Scalars. -/

/-- How one character is written in a JSON text. -/
def escapeChar (c : Char) : List Char :=
  if c = '"' then ['\\', '"']
  else if c = '\\' then ['\\', '\\']
  else if c = '\n' then ['\\', 'n']
  else if c = '\r' then ['\\', 'r']
  else if c = '\t' then ['\\', 't']
  else if c.toNat = 8 then ['\\', 'b']
  else if c.toNat = 12 then ['\\', 'f']
  else if c.toNat < 0x20 then "\\u00".toList ++ fixedHex lowerHexDigit 2 c.toNat
  else [c]

/-- A text in quotes. -/
def quoted (text : String) : String :=
  String.ofList ('"' :: (text.toList.flatMap escapeChar ++ ['"']))

/-- Numbers of the 32-bit format are positional over a narrower range. -/
def singleStyle : Style := ⟨some (-6, 12), true, "null", "null", .toEven⟩

/-- Numbers of the 64-bit format. -/
def doubleStyle : Style := ⟨some (-5, 15), true, "null", "null", .toEven⟩

/-- A floating-point number, or null. -/
def number (style : Style) (f : Format) (datum : Datum) : String :=
  match datum with
  | .finite .. => style.text f datum
  | _ => "null"

/-! ## §2. One line. -/

mutual

/-- The document on one line. -/
def compact : Document → String
  | .null => "null"
  | .boolean value => if value then "true" else "false"
  | .integer value => String.ofList (signedDecimal value)
  | .double value => number doubleStyle .double value.datum
  | .single value => number singleStyle .single value.datum
  | .text value => quoted value
  | .timestamp value => quoted value
  | .list items => "[" ++ ",".intercalate (compactItems items) ++ "]"
  | .rows tables => "[" ++ ",".intercalate (compactItems tables) ++ "]"
  | .table entries => "\x7b" ++ ",".intercalate (compactEntries entries) ++ "\x7d"

/-- The items of a list, each on one line. -/
def compactItems : List Document → List String
  | [] => []
  | item :: items => compact item :: compactItems items

/-- The entries of a table, each on one line. -/
def compactEntries : List (String × Document) → List String
  | [] => []
  | (name, value) :: entries =>
    (quoted name ++ ":" ++ compact value) :: compactEntries entries

end

/-! ## §3. Indented. -/

/-- Lines between brackets, each indented one step further than the brackets. -/
def block (opening closing indent : String) (lines : List String) : String :=
  if lines.isEmpty then opening ++ closing
  else
    let inner := indent ++ "  "
    opening ++ "\n" ++ ",\n".intercalate (lines.map (inner ++ ·)) ++ "\n" ++ indent ++ closing

mutual

/-- The document with its lists and tables spread over lines. -/
def pretty (indent : String) : Document → String
  | .list items => block "[" "]" indent (prettyItems (indent ++ "  ") items)
  | .rows tables => block "[" "]" indent (prettyItems (indent ++ "  ") tables)
  | .table entries => block "\x7b" "\x7d" indent (prettyEntries (indent ++ "  ") entries)
  | .null => "null"
  | .boolean value => if value then "true" else "false"
  | .integer value => String.ofList (signedDecimal value)
  | .double value => number doubleStyle .double value.datum
  | .single value => number singleStyle .single value.datum
  | .text value => quoted value
  | .timestamp value => quoted value

/-- The items of a list, spread over lines. -/
def prettyItems (indent : String) : List Document → List String
  | [] => []
  | item :: items => pretty indent item :: prettyItems indent items

/-- The entries of a table, spread over lines. -/
def prettyEntries (indent : String) : List (String × Document) → List String
  | [] => []
  | (name, value) :: entries =>
    (quoted name ++ ": " ++ pretty indent value) :: prettyEntries indent entries

end

end Horizon.Json
