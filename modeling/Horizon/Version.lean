/-
  Horizon.Version
  ───────────────
  **PACKED SYSTEM VERSIONS.**

  Kernel and firmware report a version as one word: major, minor and revision in the
  three upper bytes.  Packed words compare like the versions they hold as long as the
  low byte is clear.  As text a version is `major.minor.revision`.  Reading also takes
  white space around the whole text, and a plus sign and leading zeros in front of each
  component.
-/
import Horizon.Text.Blank
import Horizon.Text.Quoted

namespace Horizon

open Text

/-! ## §1. Packing. -/

/-- A system version as the word the console reports. -/
structure SystemVersion where
  /-- The packed word. -/
  raw : UInt32
  deriving Repr, DecidableEq, Inhabited

namespace SystemVersion

/-- Pack three components. -/
def pack (major minor revision : UInt8) : UInt32 :=
  (major.toUInt32 <<< 24) ||| (minor.toUInt32 <<< 16) ||| (revision.toUInt32 <<< 8)

/-- The version with the given components. -/
def ofParts (major minor revision : UInt8) : SystemVersion :=
  ⟨pack major minor revision⟩

/-- The first component. -/
def major (v : SystemVersion) : UInt32 := v.raw >>> 24

/-- The second component. -/
def minor (v : SystemVersion) : UInt32 := (v.raw >>> 16) &&& 0xFF

/-- The third component. -/
def revision (v : SystemVersion) : UInt32 := (v.raw >>> 8) &&& 0xFF

/-- Versions compare as packed words. -/
instance : Ord SystemVersion where
  compare a b := compare a.raw b.raw

/-! ## §2. Text. -/

/-- `major.minor.revision` as characters. -/
def chars (v : SystemVersion) : List Char :=
  decimal v.major.toNat ++ '.' :: (decimal v.minor.toNat ++ '.' :: decimal v.revision.toNat)

/-- `major.minor.revision`. -/
def text (v : SystemVersion) : String :=
  String.ofList v.chars

instance : ToString SystemVersion where
  toString := text

/-- A text that is no version. -/
structure ParseError where
  /-- The whole text, white space included. -/
  input : String
  deriving Repr, DecidableEq

/-- The error in words. -/
def ParseError.message (e : ParseError) : String :=
  s!"invalid system version {quote e.input}: expected major.minor.revision with components 0-255"

/-- One component: an optional plus sign and digits, at most 255. -/
def readComponent (part : List Char) : Option UInt8 :=
  match readUnsigned 10 255 part with
  | .ok n => some (UInt8.ofNat n)
  | .error _ => none

/-- The version that the characters write, white space around it aside. -/
def ofChars? (input : List Char) : Option SystemVersion :=
  match splitOn '.' (trim input) with
  | [first, second, third] =>
    match readComponent first, readComponent second, readComponent third with
    | some major, some minor, some revision => some (ofParts major minor revision)
    | _, _, _ => none
  | _ => none

/-- Read a version. -/
def parse (input : String) : Except ParseError SystemVersion :=
  match ofChars? input.toList with
  | some v => .ok v
  | none => .error ⟨input⟩

end SystemVersion

end Horizon
