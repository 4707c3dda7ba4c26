/-
  Horizon.Layout
  ──────────────
  **VIRTUAL AND PHYSICAL MEMORY OF AN APPLICATION.**

      virtual                         physical
      0x08000000 ┬ heap area
      0x0E000000 ┴
      0x10000000 ┬ map area
      0x14000000 ┼ old linear FCRAM   ──▶ 0x20000000 (128 MiB)
      0x1E800000   QTM RAM            ──▶ 0x1F000000
      0x1EC00000   MMIO               ──▶ 0x10100000
      0x1F000000   VRAM               ──▶ 0x18000000
      0x1FF00000   DSP RAM            ──▶ 0x1FF00000
      0x30000000   linear FCRAM       ──▶ 0x20000000 (256 MiB)

  Only the fixed mappings tell the physical address; heap and map area are backed by
  scattered pages.
-/
import Horizon.Fault

namespace Horizon

/-! ## §1. Areas without a fixed backing. -/

/-- Where the heap area begins. -/
def heapBegin : UInt32 := 0x08000000
/-- Where the heap area ends. -/
def heapEnd : UInt32 := 0x0E000000
/-- Where the map area begins. -/
def mapBegin : UInt32 := 0x10000000
/-- Where the map area ends. -/
def mapEnd : UInt32 := 0x14000000

/-! ## §2. Fixed mappings. -/

/-- A run of virtual addresses backed by a run of physical ones. -/
structure MappedRegion where
  /-- A short name. -/
  name : String
  /-- The first virtual address. -/
  vaddr : UInt32
  /-- The physical address behind it. -/
  paddr : UInt32
  /-- The length in bytes. -/
  size : UInt32
  deriving Repr, DecidableEq

namespace MappedRegion

/-- The address lies in the region. -/
def contains (r : MappedRegion) (address : UInt32) : Bool :=
  r.vaddr ≤ address && address - r.vaddr < r.size

/-- The physical address behind an address of the region. -/
def physical? (r : MappedRegion) (address : UInt32) : Option UInt32 :=
  if r.contains address then some (address - r.vaddr + r.paddr) else none

/-- One past the last virtual address; this may exceed 32 bits. -/
def vend (r : MappedRegion) : Nat :=
  r.vaddr.toNat + r.size.toNat

/-- The linear mapping of FCRAM that older systems use. -/
def oldFcram : MappedRegion := ⟨"old_fcram", 0x14000000, 0x20000000, 0x08000000⟩
/-- The memory of the New model's QTM. -/
def qtmRam : MappedRegion := ⟨"qtmram", 0x1E800000, 0x1F000000, 0x00400000⟩
/-- Device registers. -/
def mmio : MappedRegion := ⟨"mmio", 0x1EC00000, 0x10100000, 0x00400000⟩
/-- Video memory. -/
def vram : MappedRegion := ⟨"vram", 0x1F000000, 0x18000000, 0x00600000⟩
/-- The memory of the signal processor. -/
def dspRam : MappedRegion := ⟨"dspram", 0x1FF00000, 0x1FF00000, 0x00080000⟩
/-- The linear mapping of FCRAM. -/
def fcram : MappedRegion := ⟨"fcram", 0x30000000, 0x20000000, 0x10000000⟩

/-- Every fixed mapping, by virtual address. -/
def all : List MappedRegion := [oldFcram, qtmRam, mmio, vram, dspRam, fcram]

end MappedRegion

/-! ## §3. Looking up addresses. -/

/-- The fixed mapping that holds the address. -/
def mappingOf (address : UInt32) : Option MappedRegion :=
  MappedRegion.all.find? (·.contains address)

/-- The physical address behind a virtual one. -/
def physicalOf? (address : UInt32) : Option UInt32 :=
  (mappingOf address).bind (·.physical? address)

/-- The physical address behind a virtual one, or the failure that there is none. -/
def physicalOf (address : UInt32) : Except Fault UInt32 :=
  match physicalOf? address with
  | some physical => .ok physical
  | none => .error (.unmapped address)

/-- The address in the linear mapping of newer systems of the memory behind an address
of either linear mapping. -/
def linearOf? (address : UInt32) : Option UInt32 :=
  if MappedRegion.fcram.contains address then some address
  else if MappedRegion.oldFcram.contains address then
    some (address - MappedRegion.oldFcram.vaddr + MappedRegion.fcram.vaddr)
  else none

end Horizon
