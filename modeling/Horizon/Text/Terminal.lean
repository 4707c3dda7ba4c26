/-
  Horizon.Text.Terminal
  ─────────────────────
  **TEXT WITHOUT TERMINAL CONTROL.**

  Arguments are shown in messages as they were given.  So that none of them can steer the
  reader's terminal, control characters and control sequences are left out; tabs, line
  ends and form feeds stay.

      ESC [ … letter          a sequence with parameters
      ESC P … letter …        a string for the device
      ESC X …  ESC ^ …        strings without a use; also ESC _
      ESC ] … BEL             a command to the surrounding system

  Whatever is still open at the end of a text ends there.
-/
namespace Horizon.Text

/-! ## §1. Control sequences. -/

/-- What the characters read so far have opened. -/
inductive ControlState where
  /-- Nothing: text follows. -/
  | text
  /-- An escape. -/
  | escape
  /-- An escape with characters that announce a further one. -/
  | escapeTail
  /-- A sequence with parameters, up to a letter or the like. -/
  | sequence
  /-- The head of a string for the device. -/
  | device
  /-- The parameters in the head of a string for the device. -/
  | deviceParameters
  /-- The end of the head of a string for the device. -/
  | deviceTail
  /-- A string, up to its terminator. -/
  | string
  /-- A command to the surrounding system, up to a bell. -/
  | command
  deriving Repr, DecidableEq

/-- The code point lies between two others. -/
def between (low high code : Nat) : Bool :=
  low ≤ code && code ≤ high

/-- The byte of the string terminator is among the bytes of a character's encoding. -/
def holdsTerminator (c : Char) : Bool :=
  (String.singleton c).toUTF8.data.any (· == 0x9C)

namespace ControlState

/-- The state behind a character that is neither an escape nor a cancellation. -/
def read (state : ControlState) (c : Char) : ControlState :=
  let code := c.toNat
  match state with
  | .text => .text
  | .escape =>
    if c = '[' then .sequence
    else if c = ']' then .command
    else if c = 'P' then .device
    else if c = 'X' || c = '^' || c = '_' then .string
    else if between 0x20 0x2F code then .escapeTail
    else if between 0x30 0x7E code then .text
    else .escape
  | .escapeTail => if between 0x30 0x7E code then .text else .escapeTail
  | .sequence => if between 0x40 0x7E code then .text else .sequence
  | .device =>
    if between 0x20 0x2F code then .deviceTail
    else if between 0x30 0x3F code then .deviceParameters
    else if between 0x40 0x7E code then .string
    else .device
  | .deviceParameters =>
    if between 0x20 0x2F code then .deviceTail
    else if between 0x3C 0x7E code then .string
    else .deviceParameters
  | .deviceTail => if between 0x30 0x7E code then .string else .deviceTail
  | .string => if 0x80 ≤ code && holdsTerminator c then .text else .string
  | .command => if code = 0x07 then .text else .command

/-- The state behind a character. -/
def next (state : ControlState) (c : Char) : ControlState :=
  if c.toNat = 0x18 ∨ c.toNat = 0x1A then .text
  else if c.toNat = 0x1B then .escape
  else state.read c

/-- Line ends and the like are carried out in this state rather than swallowed. -/
def laysOut : ControlState → Bool
  | .text | .escape | .escapeTail | .sequence => true
  | _ => false

end ControlState

/-! ## §2. What is shown. -/

/-- The control characters that lay out text. -/
def isLayout (c : Char) : Bool :=
  c = '\t' || c = '\n' || c.toNat = 0x0C || c = '\r'

/-- The character is a control character of the ASCII range. -/
def isControl (c : Char) : Bool :=
  c.toNat < 0x20 || c.toNat = 0x7F

/-- The state behind a character that is shown. -/
def ControlState.behindShown (state : ControlState) (inRun : Bool) (c : Char) : ControlState :=
  if !inRun then state.next c
  else if c.toNat < 0x80 then state
  else .text

/-- The characters that are shown.  A character that is shown within a sequence starts a
run of text, as laid out as it may be; behind the run the sequence goes on, unless a
character beyond ASCII has ended it. -/
def shown (state : ControlState) (inRun : Bool) : List Char → List Char
  | [] => []
  | c :: rest =>
    let visible :=
      if isLayout c then inRun || state.laysOut
      else !isControl c && (inRun || state = .text)
    if visible then c :: shown (state.behindShown inRun c) true rest
    else shown (state.next c) false rest

/-- The text without terminal control. -/
def withoutControl (text : String) : String :=
  String.ofList (shown .text false text.toList)

end Horizon.Text
