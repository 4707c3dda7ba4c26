/-
  Horizon.Bus.Window
  ──────────────────
  **A WINDOW OF MAPPED MEMORY.**

  The window shows a run of bytes at a place in the address space.  A read that does not
  lie inside as a whole gives zero.
-/
import Horizon.Bus

namespace Horizon

/-- A run of bytes and the address of the first. -/
structure Window where
  /-- The bytes. -/
  content : Array UInt8
  /-- The address of the first byte. -/
  origin : UInt32

namespace Window

/-- The length of the window: what an address space of 32 bits can show of its content. -/
def length (window : Window) : Nat :=
  min window.content.size 0xFFFF_FFFF

/-- Where in the window an access of some width lies, if it lies inside. -/
def offset? (window : Window) (address : UInt32) (width : Nat) : Option Nat :=
  if window.origin ≤ address then
    let offset := (address - window.origin).toNat
    if offset + width ≤ window.length then some offset else none
  else none

/-- The byte at an offset. -/
def contentAt (window : Window) (offset : Nat) : UInt8 :=
  window.content.getD offset 0

/-- The byte at an address. -/
def byte (window : Window) (address : UInt32) : UInt8 :=
  match window.offset? address 1 with
  | some offset => window.contentAt offset
  | none => 0

/-- The word at an address, aligned or not. -/
def word (window : Window) (address : UInt32) : UInt32 :=
  match window.offset? address 4 with
  | some offset =>
    Bus.joinBytes (window.contentAt offset) (window.contentAt (offset + 1)) (window.contentAt (offset + 2))
      (window.contentAt (offset + 3))
  | none => 0

/-- The window as a bus. -/
def bus (window : Window) : Bus where
  byte := window.byte
  word := window.word

/-- A window that is mapped at its own address.  Address zero is never mapped. -/
def identity? (origin : UInt32) (content : Array UInt8) : Option Window :=
  if origin = 0 then none else some ⟨content, origin⟩

end Window

end Horizon
