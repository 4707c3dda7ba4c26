/-
  Horizon.Text.Pattern
  ────────────────────
  **WELL-FORMED SEARCH PATTERNS.**

  A search pattern is a regular expression:

      c   .   \n   \x41   [a-z]   ^   $           a character, one of several, a place
      p?   p*   p+                                repetition
      p|q   (p)   (?<name>p)   (?i-s:p)   (?x)    alternatives, groups and flags

  Only the form matters here.  The properties of characters in other scripts are not at
  hand, so that classes such as `\d`, letters of either case and the bounds of words are
  refused, as long as the flag `u` stands for all scripts.  A counted repetition is not
  well formed either: where patterns are written no closing brace can occur.
-/
import Horizon.Text.Blank
import Horizon.Text.Letter
import Horizon.Text.Numeral

namespace Horizon.Text.Pattern

/-! ## §1. Flags. -/

/-- How a pattern is to be read. -/
structure Flags where
  /-- White space and comments do not count. -/
  extended : Bool := false
  /-- Letters of either case are the same. -/
  caseless : Bool := false
  /-- Characters are those of all scripts, not of ASCII alone. -/
  allScripts : Bool := true
  deriving Repr, DecidableEq

/-- The letters of the flags. -/
def flagLetters : List Char := ['i', 'm', 's', 'U', 'u', 'R', 'x']

/-- The flags after one was set or cleared; some of them have no influence on the form. -/
def Flags.set (flags : Flags) (letter : Char) (value : Bool) : Flags :=
  if letter = 'x' then { flags with extended := value }
  else if letter = 'i' then { flags with caseless := value }
  else if letter = 'u' then { flags with allScripts := value }
  else flags

/-- Read flags up to the colon or the parenthesis behind them: the flags, whether a group
follows, and the rest.  Flags behind a hyphen are cleared; none may be named twice. -/
def readFlags (flags : Flags) (named : List Char) (clear dangling : Bool) :
    List Char → Option (Flags × Bool × List Char)
  | [] => none
  | ':' :: rest => if dangling then none else some (flags, true, rest)
  | ')' :: rest => if dangling || named.isEmpty then none else some (flags, false, rest)
  | '-' :: rest => if clear then none else readFlags flags named true true rest
  | letter :: rest =>
    if flagLetters.contains letter && !named.contains letter then
      readFlags (flags.set letter !clear) (letter :: named) clear false rest
    else none

/-- The text from the next character that counts. -/
def skipBlank (comment : Bool) : List Char → List Char
  | [] => []
  | c :: rest =>
    if comment then skipBlank (c != '\n') rest
    else if isBlank c then skipBlank false rest
    else if c = '#' then skipBlank true rest
    else c :: rest

/-- The text from the next character that counts under the flags. -/
def Flags.skip (flags : Flags) (text : List Char) : List Char :=
  if flags.extended then skipBlank false text else text

/-! ## §2. Escapes. -/

/-- What a pattern's element stands for. -/
inductive Element where
  /-- A character. -/
  | character (c : Char)
  /-- A byte, or the character of that number. -/
  | byte (c : Char)
  /-- A class of characters with a name of one letter. -/
  | shorthand (negated : Bool)
  /-- A place between characters. -/
  | place (ofWord : Bool)
  deriving Repr, DecidableEq

/-- The element can be told in the scripts that the flags speak of. -/
def Flags.admits (flags : Flags) : Element → Bool
  | .character _ => !(flags.caseless && flags.allScripts)
  | .byte c => if flags.allScripts then !flags.caseless else c.toNat < 0x80
  | .shorthand negated => !flags.allScripts && !negated
  | .place ofWord => !(ofWord && flags.allScripts)

/-- Read a number of that many hexadecimal digits: its character and the rest. -/
def readHex (digits value : Nat) (text : List Char) : Option (Char × List Char) :=
  match digits, text with
  | 0, rest => if h : value.isValidChar then some (Char.ofNatAux value h, rest) else none
  | _ + 1, [] => none
  | digits + 1, c :: rest => do readHex digits (value * 16 + (← digitValue? 16 c)) rest

/-- Read what follows a backslash.  Letters and digits that have no meaning are refused;
other characters of the ASCII range stand for themselves. -/
def readEscape : List Char → Option (Element × List Char)
  | [] => none
  | 'x' :: rest => (readHex 2 0 rest).map fun (c, rest) => (.byte c, rest)
  | 'u' :: rest => (readHex 4 0 rest).map fun (c, rest) => (.character c, rest)
  | 'U' :: rest => (readHex 8 0 rest).map fun (c, rest) => (.character c, rest)
  | c :: rest =>
    if ['d', 's', 'w'].contains c then some (.shorthand false, rest)
    else if ['D', 'S', 'W'].contains c then some (.shorthand true, rest)
    else if ['A', 'z'].contains c then some (.place false, rest)
    else if ['b', 'B', '<', '>'].contains c then some (.place true, rest)
    else if ['a', 'f', 't', 'n', 'r', 'v'].contains c then some (.character c, rest)
    else if c.toNat < 0x80 && !c.isAlphanum then some (.character c, rest)
    else none

/-! ## §3. Classes in brackets. -/

/-- The names of classes in brackets and colons. -/
def classNames : List String :=
  ["alnum", "alpha", "ascii", "blank", "cntrl", "digit", "graph", "lower", "print", "punct",
   "space", "upper", "word", "xdigit"]

/-- Read a named class behind its first bracket: whether it is negated, and the rest. -/
def readNamedClass : List Char → Option (Bool × List Char)
  | ':' :: text =>
    let negated := text.head? = some '^'
    let text := if negated then text.drop 1 else text
    let name := text.takeWhile (· != ':')
    match text.drop name.length with
    | ':' :: ']' :: rest =>
      if classNames.contains (String.ofList name) then some (negated, rest) else none
    | _ => none
  | _ => none

/-- Read the opening of a class behind its bracket: whether it is negated, and the rest.
Hyphens and a bracket that stand first are ordinary characters. -/
def openClass (flags : Flags) (text : List Char) : Bool × List Char :=
  let text := flags.skip text
  let negated := text.head? = some '^'
  let text := if negated then flags.skip (text.drop 1) else text
  if text.head? = some '-' then
    (negated, text.dropWhile fun c => c = '-' || flags.extended && isBlank c)
  else if text.head? = some ']' then (negated, text.drop 1)
  else (negated, text)

/-- Read an element of a class. -/
def readElement : List Char → Option (Element × List Char)
  | [] => none
  | '\\' :: rest => readEscape rest
  | c :: rest => some (.character c, rest)

/-- The character of an element that stands for one. -/
def Flags.character? (flags : Flags) : Element → Option Char
  | .character c | .byte c => if flags.allScripts || c.toNat < 0x80 then some c else none
  | _ => none

/-- The element can stand in a class. -/
def Flags.admitsInClass (flags : Flags) : Element → Bool
  | .shorthand negated => flags.admits (.shorthand negated)
  | element => (flags.character? element).isSome

/-- Read an element of a class or a range of characters, from the lower to the higher. -/
def readRange (flags : Flags) (text : List Char) : Option (List Char) := do
  let (first, rest) ← readElement text
  match flags.skip rest with
  | '-' :: more =>
    match flags.skip more with
    | [] => none
    | ']' :: _ => if flags.admitsInClass first then some ('-' :: more) else none
    | '-' :: _ => if flags.admitsInClass first then some ('-' :: more) else none
    | next => do
      let (last, rest) ← readElement next
      if (← flags.character? first) ≤ (← flags.character? last) then some rest else none
  | rest => if flags.admitsInClass first then some rest else none

/-- Read the inside of `depth + 1` classes up to the end of the outermost; two signs in a
row join sets. -/
def readClass (flags : Flags) (depth : Nat) (text : List Char) : (fuel : Nat) → Option (List Char)
  | 0 => none
  | fuel + 1 =>
    match flags.skip text with
    | '[' :: rest =>
      match readNamedClass rest with
      | some (negated, rest) =>
        if negated && !flags.allScripts then none else readClass flags depth rest fuel
      | none =>
        let (negated, rest) := openClass flags rest
        if negated && !flags.allScripts then none else readClass flags (depth + 1) rest fuel
    | ']' :: rest =>
      match depth with
      | 0 => some rest
      | depth + 1 => readClass flags depth rest fuel
    | '&' :: '&' :: rest => readClass flags depth rest fuel
    | '-' :: '-' :: rest => readClass flags depth rest fuel
    | '~' :: '~' :: rest => readClass flags depth rest fuel
    | text => do readClass flags depth (← readRange flags text) fuel

/-- Read a class behind its first bracket. -/
def skipClass (flags : Flags) (text : List Char) : Option (List Char) :=
  let (negated, rest) := openClass flags text
  if flags.caseless && flags.allScripts || negated && !flags.allScripts then none
  else readClass flags 0 rest (rest.length + 1)

/-! ## §4. Patterns. -/

/-- Where reading stands. -/
structure Progress where
  /-- The flags in force. -/
  flags : Flags := {}
  /-- The flags that come back into force behind the open groups, from the innermost. -/
  outer : List Flags := []
  /-- There is something to repeat. -/
  repeatable : Bool := false
  /-- The names of groups so far. -/
  names : List (List Char) := []
  deriving Repr, DecidableEq

/-- The characters can be the name of a group. -/
def isGroupName : List Char → Bool
  | [] => false
  | c :: rest =>
    (c = '_' || isAlphabetic c) &&
      rest.all fun c => c = '_' || c = '.' || c = '[' || c = ']' || isAlphanumeric c

/-- Open a group. -/
def Progress.enter (progress : Progress) (flags : Flags) : Progress :=
  { progress with flags, outer := progress.flags :: progress.outer, repeatable := false }

/-- Read the name of a group and open it. -/
def enterNamed (progress : Progress) (text : List Char) : Option (Progress × List Char) :=
  let name := text.takeWhile (· != '>')
  match text.drop name.length with
  | _ :: rest =>
    if isGroupName name && !progress.names.contains name then
      some ({ progress.enter progress.flags with names := name :: progress.names }, rest)
    else none
  | [] => none

/-- Read what follows an opening parenthesis: the head of a group, or flags for the rest
of the group around. -/
def readParenthesis (progress : Progress) (text : List Char) : Option (Progress × List Char) :=
  match progress.flags.skip text with
  | '?' :: 'P' :: '<' :: rest => enterNamed progress rest
  | '?' :: '<' :: rest => enterNamed progress rest
  | '?' :: rest => do
    let (flags, isGroup, rest) ← readFlags progress.flags [] false false rest
    if isGroup then some (progress.enter flags, rest)
    else some ({ progress with flags, repeatable := false }, rest)
  | rest => some (progress.enter progress.flags, rest)

/-- The rest of a pattern is well formed. -/
def isRest (progress : Progress) (text : List Char) : (fuel : Nat) → Bool
  | 0 => false
  | fuel + 1 =>
    let flags := progress.flags
    let element (element : Element) (rest : List Char) : Bool :=
      flags.admits element && isRest { progress with repeatable := true } rest fuel
    match flags.skip text with
    | [] => progress.outer.isEmpty
    | '(' :: rest =>
      match readParenthesis progress rest with
      | none => false
      | some (progress, rest) => isRest progress rest fuel
    | ')' :: rest =>
      match progress.outer with
      | [] => false
      | flags :: outer => isRest { progress with flags, outer, repeatable := true } rest fuel
    | '|' :: rest => isRest { progress with repeatable := false } rest fuel
    | '[' :: rest =>
      match skipClass flags rest with
      | none => false
      | some rest => isRest { progress with repeatable := true } rest fuel
    | '\\' :: rest =>
      match readEscape rest with
      | none => false
      | some (escaped, rest) => element escaped rest
    | '.' :: rest =>
      flags.allScripts && isRest { progress with repeatable := true } rest fuel
    | c :: rest =>
      if c = '?' || c = '*' || c = '+' then progress.repeatable && isRest progress rest fuel
      else if c = '\x7b' then false
      else if c = '^' || c = '$' then element (.place false) rest
      else element (.character c) rest

end Horizon.Text.Pattern

namespace Horizon.Text

/-- The text is a search pattern. -/
def isPattern (text : List Char) : Bool :=
  Pattern.isRest {} text (text.length + 1)

end Horizon.Text
