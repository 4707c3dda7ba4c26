/-
  Horizon.Document.Toml.Writer
  ────────────────────────────
  **WRITING TOML TEXT.**

  A table's scalars come first, one to a line, and its subtables after them, each behind a
  blank line and a header.
-/
import Horizon.Document.Decode

namespace Horizon.Toml

open Binary Text

/-- Why a document cannot be written. -/
inductive WriteError where
  /-- A whole number exceeds 64 bits with a sign. -/
  | wordRange
  /-- A value has no form on a line of its own. -/
  | noScalar
  deriving Repr, DecidableEq

/-- The error in words. -/
def WriteError.message : WriteError → String
  | .wordRange => "out-of-range value for u64 type"
  | .noScalar => "unsupported value"

/-! ## §1. Scalars. -/

/-- Floating-point numbers always show a point. -/
def numberStyle : Style := ⟨none, true, "nan", "inf", .up⟩

/-- How one character is written between double quotes. -/
def escapeChar (c : Char) : List Char :=
  if c = '"' then ['\\', '"']
  else if c = '\\' then ['\\', '\\']
  else if c = '\n' then ['\\', 'n']
  else if c = '\r' then ['\\', 'r']
  else if c = '\t' then ['\\', 't']
  else if c.toNat = 8 then ['\\', 'b']
  else if c.toNat = 12 then ['\\', 'f']
  else if c.toNat < 0x20 || c.toNat = 0x7F then
    "\\u00".toList ++ fixedHex upperHexDigit 2 c.toNat
  else [c]

/-- A text in double quotes. -/
def quoted (text : String) : String :=
  String.ofList ('"' :: (text.toList.flatMap escapeChar ++ ['"']))

/-- A scalar. -/
def scalarText : Document → Except WriteError String
  | .boolean value => .ok (if value then "true" else "false")
  | .integer value =>
    if -0x8000_0000_0000_0000 ≤ value ∧ value < 0x8000_0000_0000_0000 then
      .ok (String.ofList (signedDecimal value))
    else .error .wordRange
  | .double value => .ok (numberStyle.text .double value.datum)
  | .single value => .ok (numberStyle.text .double value.toDouble.datum)
  | .text value => .ok (quoted value)
  | .timestamp value => .ok value
  | .null => .error .noScalar
  | .list _ => .error .noScalar
  | .rows _ => .error .noScalar
  | .table _ => .error .noScalar

/-! ## §2. Tables. -/

/-- The lines of a table's scalars. -/
def scalarLines : List (String × Document) → Except WriteError (List String)
  | [] => .ok []
  | (_, .table _) :: entries => scalarLines entries
  | (name, value) :: entries => do
    let line := s!"{name} = {← scalarText value}"
    let lines ← scalarLines entries
    .ok (line :: lines)

mutual

/-- The lines of a table: its header, its scalars and its subtables. -/
def tableLines (path : List String) : Document → Except WriteError (List String)
  | .table entries => do
    let scalars ← scalarLines entries
    let tables ← subtableLines path entries
    .ok (("[" ++ ".".intercalate path ++ "]") :: scalars ++ tables)
  | _ => .ok []

/-- The lines of a table's subtables, each behind a blank line. -/
def subtableLines (path : List String) :
    List (String × Document) → Except WriteError (List String)
  | [] => .ok []
  | (name, value) :: entries => do
    let lines ← tableLines (path ++ [name]) value
    let more ← subtableLines path entries
    .ok ((if lines.isEmpty then [] else "" :: lines) ++ more)

end

/-- A table as text. -/
def write (entries : List (String × Document)) : Except WriteError String := do
  let scalars ← scalarLines entries
  let tables ← subtableLines [] entries
  .ok (String.join ((scalars ++ tables).map (· ++ "\n")))

end Horizon.Toml
