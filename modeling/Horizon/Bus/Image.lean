/-
  Horizon.Bus.Image
  ─────────────────
  **A SPARSE IMAGE OF THE ADDRESS SPACE.**

  Bytes that were never written read as zero.  Values of several bytes are stored lowest
  byte first, and their addresses wrap at the top of the address space.
-/
import Std.Data.HashMap
import Horizon.Bus

namespace Horizon

open Binary (Single)

/-- The bytes written so far. -/
structure Image where
  /-- The last byte written at each address. -/
  written : Std.HashMap UInt32 UInt8

namespace Image

/-! ## §1. Bytes. -/

/-- Nothing has been written. -/
def empty : Image := ⟨∅⟩

instance : Inhabited Image := ⟨empty⟩

/-- The byte at an address. -/
def byte (image : Image) (address : UInt32) : UInt8 :=
  image.written.getD address 0

/-- Write one byte. -/
def writeByte (image : Image) (address : UInt32) (value : UInt8) : Image :=
  ⟨image.written.insert address value⟩

/-- Write bytes at consecutive addresses. -/
def writeBytes (image : Image) (address : UInt32) : List UInt8 → Image
  | [] => image
  | value :: rest => (image.writeByte address value).writeBytes (address + 1) rest

/-! ## §2. Wider values. -/

/-- The bytes of a word, lowest first. -/
def wordBytes (value : UInt32) : List UInt8 :=
  [value.toUInt8, (value >>> 8).toUInt8, (value >>> 16).toUInt8, (value >>> 24).toUInt8]

/-- The bytes of a 64-bit value, lowest first. -/
def doubleBytes (value : UInt64) : List UInt8 :=
  wordBytes value.toUInt32 ++ wordBytes (value >>> 32).toUInt32

/-- Write a word. -/
def writeWord (image : Image) (address value : UInt32) : Image :=
  image.writeBytes address (wordBytes value)

/-- Write a 64-bit value. -/
def writeDouble (image : Image) (address : UInt32) (value : UInt64) : Image :=
  image.writeBytes address (doubleBytes value)

/-- Write a floating-point number. -/
def writeSingle (image : Image) (address : UInt32) (value : Single) : Image :=
  image.writeWord address value.bits

/-- The word at an address. -/
def word (image : Image) (address : UInt32) : UInt32 :=
  Bus.joinBytes (image.byte address) (image.byte (address + 1)) (image.byte (address + 2))
    (image.byte (address + 3))

/-- The image as a bus. -/
def bus (image : Image) : Bus where
  byte := image.byte
  word := image.word

end Image

end Horizon
