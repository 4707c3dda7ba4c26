/-
  Horizon.Bus
  ───────────
  **READING THE CONSOLE'S ADDRESS SPACE.**

  A bus answers reads of bytes and words at 32-bit addresses.  Reads never fail.  Wider
  values are made of words: a 64-bit value is two words, low one first, and the address
  of the high one wraps at the top of the address space.
-/
import Horizon.Binary.Format

namespace Horizon

open Binary (Single)

/-- What a bus holds at one moment. -/
structure Bus where
  /-- The byte at an address. -/
  byte : UInt32 → UInt8
  /-- The little-endian word at an address. -/
  word : UInt32 → UInt32

namespace Bus

/-- Two words as one 64-bit value. -/
def joinWords (low high : UInt32) : UInt64 :=
  (high.toUInt64 <<< 32) ||| low.toUInt64

/-- The 64-bit value at an address. -/
def double (bus : Bus) (address : UInt32) : UInt64 :=
  joinWords (bus.word address) (bus.word (address + 4))

/-- The floating-point number at an address. -/
def single (bus : Bus) (address : UInt32) : Single :=
  ⟨bus.word address⟩

/-- Four bytes as one word, the first byte lowest. -/
def joinBytes (b0 b1 b2 b3 : UInt8) : UInt32 :=
  b0.toUInt32 ||| (b1.toUInt32 <<< 8) ||| (b2.toUInt32 <<< 16) ||| (b3.toUInt32 <<< 24)

end Bus

end Horizon
