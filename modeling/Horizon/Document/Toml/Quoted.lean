/-
  Horizon.Document.Toml.Quoted
  ────────────────────────────
  **TEXTS IN TOML.**

  Four kinds of quotes: single or triple, double quotes with escapes or apostrophes
  without.  Line ends inside triple quotes are read as line feeds, and one right behind
  the opening quotes is dropped.
-/
import Horizon.Text.Numeral

namespace Horizon.Toml

open Text

/-! ## §1. Characters. -/

/-- A blank within a line. -/
def isSpace (c : Char) : Bool :=
  c = ' ' || c = '\t'

/-- A character that may stand in a comment or between quotes: no control character
except the tab. -/
def isPlain (c : Char) : Bool :=
  c = '\t' || (0x20 ≤ c.toNat && c.toNat ≠ 0x7F)

/-- The rest behind a line end. -/
def afterNewline? : List Char → Option (List Char)
  | '\n' :: rest => some rest
  | '\r' :: '\n' :: rest => some rest
  | _ => none

/-- The character of a code point, if it is one. -/
def scalarChar? (code : Nat) : Option Char :=
  if code < 0xD800 || (0xDFFF < code && code < 0x110000) then some (Char.ofNat code) else none

/-- The character that so many hexadecimal digits name, and the rest. -/
def readCode (count : Nat) (text : List Char) : Option (Char × List Char) :=
  let digits := text.take count
  if digits.length = count && digits.all (fun c => (digitValue? 16 c).isSome) then
    match readMagnitude 16 0xFFFFFFFF .tooLarge digits with
    | .ok code => (scalarChar? code).map fun c => (c, text.drop count)
    | .error _ => none
  else none

/-- The character that an escape stands for, and the rest; the text starts behind the
backslash. -/
def readEscape : List Char → Option (Char × List Char)
  | 'b' :: rest => some (Char.ofNat 8, rest)
  | 't' :: rest => some ('\t', rest)
  | 'n' :: rest => some ('\n', rest)
  | 'f' :: rest => some (Char.ofNat 12, rest)
  | 'r' :: rest => some ('\r', rest)
  | '"' :: rest => some ('"', rest)
  | '\\' :: rest => some ('\\', rest)
  | 'u' :: rest => readCode 4 rest
  | 'U' :: rest => readCode 8 rest
  | _ => none

/-! ## §2. Texts on one line. -/

/-- Read a text with escapes up to its closing quote. -/
def readBasic : (fuel : Nat) → List Char → Option (List Char × List Char)
  | 0, _ => none
  | fuel + 1, text =>
    match text with
    | [] => none
    | '"' :: rest => some ([], rest)
    | '\\' :: rest => do
      let (c, rest) ← readEscape rest
      let (more, rest) ← readBasic fuel rest
      some (c :: more, rest)
    | c :: rest =>
      if isPlain c then do
        let (more, rest) ← readBasic fuel rest
        some (c :: more, rest)
      else none

/-- Read a text without escapes up to its closing apostrophe. -/
def readLiteral : List Char → Option (List Char × List Char)
  | [] => none
  | c :: rest =>
    if c = '\'' then some ([], rest)
    else if isPlain c then do
      let (more, rest) ← readLiteral rest
      some (c :: more, rest)
    else none

/-! ## §3. Texts on several lines. -/

/-- The rest behind the blanks and line ends that follow an escaped line end. -/
def skipFolded : (fuel : Nat) → List Char → List Char
  | 0, text => text
  | fuel + 1, text =>
    match text with
    | [] => []
    | c :: rest =>
      if isSpace c then skipFolded fuel rest
      else
        match afterNewline? (c :: rest) with
        | some rest => skipFolded fuel rest
        | none => c :: rest

/-- A run of quotes inside triple quotes.  Up to two stand for themselves.  More close
the text, up to two of them belonging to it. -/
def closingRun (quote : Char) (text : List Char) : Option (List Char × List Char) :=
  let run := (text.takeWhile (· = quote)).length
  if run < 3 then none
  else
    let kept := min (run - 3) 2
    some (List.replicate kept quote, text.drop (kept + 3))

/-- Read a text between triple quotes; double quotes allow escapes. -/
def readLong (quote : Char) : (fuel : Nat) → List Char → Option (List Char × List Char)
  | 0, _ => none
  | fuel + 1, text =>
    match closingRun quote text with
    | some closed => some closed
    | none =>
      match afterNewline? text with
      | some rest => do
        let (more, rest) ← readLong quote fuel rest
        some ('\n' :: more, rest)
      | none =>
        match text with
        | [] => none
        | c :: rest =>
          if c = '\\' && quote = '"' then
            match afterNewline? (rest.dropWhile isSpace) with
            | some rest => readLong quote fuel (skipFolded rest.length rest)
            | none => do
              let (c, rest) ← readEscape rest
              let (more, rest) ← readLong quote fuel rest
              some (c :: more, rest)
          else if isPlain c then do
            let (more, rest) ← readLong quote fuel rest
            some (c :: more, rest)
          else none

/-- Read a text between triple quotes, less a line end right at its start. -/
def readLongText (quote : Char) (text : List Char) : Option (List Char × List Char) :=
  let text := (afterNewline? text).getD text
  readLong quote (text.length + 1) text

/-- Read a text of any kind. -/
def readQuoted : List Char → Option (List Char × List Char)
  | '"' :: '"' :: '"' :: rest => readLongText '"' rest
  | '\'' :: '\'' :: '\'' :: rest => readLongText '\'' rest
  | '"' :: rest => readBasic (rest.length + 1) rest
  | '\'' :: rest => readLiteral rest
  | _ => none

end Horizon.Toml
