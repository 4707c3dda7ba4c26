/-
  Horizon.Document.Toml.Reader
  ────────────────────────────
  **READING TOML TEXT.**

  A text is a sequence of statements, each on a line of its own: a header that opens a
  table, or a key and its value.  `statements?` reads them and `parse` builds the document
  that they describe.
-/
import Horizon.Document.Toml.Quoted
import Horizon.Document.Toml.Scalar
import Horizon.Document.Toml.Tree

namespace Horizon.Toml

/-! ## §1. Blanks and comments. -/

/-- Skip the blanks of a line. -/
def skipSpaces (text : List Char) : List Char :=
  text.dropWhile isSpace

/-- Skip a comment, if one starts here. -/
def skipComment : List Char → List Char
  | '#' :: rest => rest.dropWhile isPlain
  | text => text

/-- The rest behind the end of a line, blanks and a comment included. -/
def endLine (text : List Char) : Option (List Char) :=
  match skipComment (skipSpaces text) with
  | [] => some []
  | rest => afterNewline? rest

/-- Skip blanks, line ends and comments; a comment holds plain characters only. -/
def skipLines : (inComment : Bool) → List Char → Option (List Char)
  | _, [] => some []
  | _, '\n' :: rest => skipLines false rest
  | _, '\r' :: '\n' :: rest => skipLines false rest
  | true, c :: rest => if isPlain c then skipLines true rest else none
  | false, c :: rest =>
    if c = '#' then skipLines true rest
    else if isSpace c then skipLines false rest
    else some (c :: rest)

/-! ## §2. Keys. -/

/-- How deep values may nest, and how many parts a key may have. -/
def depthLimit : Nat := 80

/-- The characters of a key without quotes. -/
def isKeyChar (c : Char) : Bool :=
  c.isAlphanum || c = '_' || c = '-'

/-- Read one part of a key. -/
def readPart (text : List Char) : Option (String × List Char) :=
  match text with
  | '"' :: rest => (readBasic (rest.length + 1) rest).map fun r => (String.ofList r.1, r.2)
  | '\'' :: rest => (readLiteral rest).map fun r => (String.ofList r.1, r.2)
  | _ =>
    let name := text.takeWhile isKeyChar
    if name.isEmpty then none else some (String.ofList name, text.dropWhile isKeyChar)

/-- Read a key with blanks around its parts: the parts before the last, and the last. -/
def readKey : (fuel : Nat) → List Char → Option (List String × String × List Char)
  | 0, _ => none
  | fuel + 1, text => do
    let (part, rest) ← readPart (skipSpaces text)
    match skipSpaces rest with
    | '.' :: rest => do
      let (parts, last, rest) ← readKey fuel rest
      some (part :: parts, last, rest)
    | rest => some ([], part, rest)

/-! ## §3. Values. -/

/-- The entries of a table written in one piece. -/
def inlineTable (pairs : List (List String × String × Document)) : Option Document := do
  let entries ← pairs.foldlM (fun entries pair => addValue pair.1 pair.2.1 pair.2.2 entries) []
  some (.table (entryDocuments entries))

mutual

/-- Read a value; `depth` more lists and tables may nest in it. -/
def readValue : (fuel depth : Nat) → List Char → Option (Document × List Char)
  | 0, _, _ => none
  | fuel + 1, depth, text =>
    match text with
    | '"' :: _ => (readQuoted text).map fun r => (.text (String.ofList r.1), r.2)
    | '\'' :: _ => (readQuoted text).map fun r => (.text (String.ofList r.1), r.2)
    | '[' :: rest =>
      match depth with
      | 0 => none
      | depth + 1 => do
        let (items, rest) ← readItems fuel depth rest
        some (.list items, rest)
    | '\x7b' :: rest =>
      match depth with
      | 0 => none
      | depth + 1 =>
        match skipSpaces rest with
        | '\x7d' :: rest => some (.table [], rest)
        | rest => do
          let (pairs, rest) ← readPairs fuel depth rest
          some (← inlineTable pairs, rest)
    | _ => readScalar text

/-- Read the items of a list up to its closing bracket; a comma may follow the last. -/
def readItems : (fuel depth : Nat) → List Char → Option (List Document × List Char)
  | 0, _, _ => none
  | fuel + 1, depth, text => do
    match ← skipLines false text with
    | ']' :: rest => some ([], rest)
    | text => do
      let (item, rest) ← readValue fuel depth text
      match ← skipLines false rest with
      | ',' :: rest => do
        let (items, rest) ← readItems fuel depth rest
        some (item :: items, rest)
      | ']' :: rest => some ([item], rest)
      | _ => none

/-- Read the entries of a table written in one piece, up to its closing brace. -/
def readPairs : (fuel depth : Nat) → List Char →
    Option (List (List String × String × Document) × List Char)
  | 0, _, _ => none
  | fuel + 1, depth, text => do
    let (path, name, rest) ← readKey depthLimit.pred text
    match rest with
    | '=' :: rest => do
      let (value, rest) ← readValue fuel depth (skipSpaces rest)
      match skipSpaces rest with
      | ',' :: rest => do
        let (pairs, rest) ← readPairs fuel depth rest
        some ((path, name, value) :: pairs, rest)
      | '\x7d' :: rest => some ([(path, name, value)], rest)
      | _ => none
    | _ => none

end

/-! ## §4. Statements. -/

/-- One line of a text. -/
inductive Statement where
  /-- A header that opens a table. -/
  | table (path : List String)
  /-- A header that opens the next row of a list of tables. -/
  | row (path : List String)
  /-- A key and its value. -/
  | entry (path : List String) (name : String) (value : Document)

/-- Read a header; the text starts behind its first bracket. -/
def readHeader (text : List Char) : Option (Statement × List Char) :=
  match text with
  | '[' :: rest => do
    let (path, name, rest) ← readKey depthLimit.pred rest
    match rest with
    | ']' :: ']' :: rest => some (.row (path ++ [name]), ← endLine rest)
    | _ => none
  | rest => do
    let (path, name, rest) ← readKey depthLimit.pred rest
    match rest with
    | ']' :: rest => some (.table (path ++ [name]), ← endLine rest)
    | _ => none

/-- Read a key and its value. -/
def readEntry (text : List Char) : Option (Statement × List Char) := do
  let (path, name, rest) ← readKey depthLimit.pred text
  match rest with
  | '=' :: rest => do
    let (value, rest) ← readValue (rest.length + 1) depthLimit.pred (skipSpaces rest)
    some (.entry path name value, ← endLine rest)
  | _ => none

/-- Read every statement of a text. -/
def readStatements : (fuel : Nat) → List Char → Option (List Statement)
  | 0, _ => none
  | fuel + 1, text =>
    match skipSpaces text with
    | [] => some []
    | '#' :: rest => do readStatements fuel (← endLine ('#' :: rest))
    | '\n' :: rest => readStatements fuel rest
    | '\r' :: rest => do readStatements fuel (← afterNewline? ('\r' :: rest))
    | '[' :: rest => do
      let (statement, rest) ← readHeader rest
      some (statement :: (← readStatements fuel rest))
    | text => do
      let (statement, rest) ← readEntry text
      some (statement :: (← readStatements fuel rest))

/-- The statements of a text.  A byte order mark in front is passed. -/
def statements? (text : List Char) : Option (List Statement) :=
  let text := if text.head? = some (Char.ofNat 0xFEFF) then text.drop 1 else text
  readStatements (text.length + 1) text

/-! ## §5. Documents. -/

/-- What one statement does to a document under construction. -/
def Statement.apply (draft : Draft) : Statement → Option Draft
  | .table path => draft.openTable path
  | .row path => draft.openRow path
  | .entry path name value => draft.add path name value

/-- The document that statements describe. -/
def documentOf (statements : List Statement) : Option Document := do
  let draft ← statements.foldlM Statement.apply {}
  some (.table (entryDocuments (← draft.close)))

/-- The document that a text writes. -/
def parse (text : String) : Option Document := do
  documentOf (← statements? text.toList)

end Horizon.Toml
