/-
  Horizon.Proofs.Bus.History
  ──────────────────────────
  **HISTORIES OF WRITES.**

  A history is any sequence of operations that write to the address space.  Each writes
  cells, and after the history every address holds the byte written to it last:

      Write.byte_apply              one operation
      Image.byte_after              a whole history
      history_refines_flat_memory   what every read of every width then gives
-/
import Horizon.Console
import Horizon.Proofs.DateTime.Publish

namespace Horizon

open Registers
open Binary (Single)

/-! ## §1. Histories. -/

/-- One operation that writes to the address space. -/
inductive Write where
  /-- One byte. -/
  | byte (address : UInt32) (value : UInt8)
  /-- A word. -/
  | word (address value : UInt32)
  /-- A 64-bit value. -/
  | double (address : UInt32) (value : UInt64)
  /-- A floating-point number. -/
  | single (address : UInt32) (value : Single)
  /-- The sizes of the memory regions. -/
  | regionSizes (sizes : RegionBytes)
  /-- A date and time record. -/
  | publish (record : DateTimeRecord)

namespace Write

/-- What the operation does to the image. -/
def apply (image : Image) : Write → Image
  | .byte address value => image.writeByte address value
  | .word address value => image.writeWord address value
  | .double address value => image.writeDouble address value
  | .single address value => image.writeSingle address value
  | .regionSizes sizes => image.writeRegionSizes sizes
  | .publish record => image.publish record

/-- The cells that the operation writes, in order.  A publish goes by the count that flat
memory holds: it fills the record that the next count selects and then writes that
count. -/
def cells (memory : FlatMemory) : Write → List Cell
  | .byte address value => cellsOf address 1 value.toNat
  | .word address value => cellsOf address 4 value.toNat
  | .double address value => cellsOf address 8 value.toNat
  | .single address value => cellsOf address 4 value.bits.toNat
  | .regionSizes sizes =>
    cellsOf regionSizesAt 4 sizes.application.toNat ++
      cellsOf (regionSizesAt + 4) 4 sizes.system.toNat ++
      cellsOf (regionSizesAt + 8) 4 sizes.base.toNat
  | .publish record =>
    let next := (memory.value selectorAt 4 + 1) % 2 ^ 32
    let slot := if next % 2 = 0 then evenRecordAt else oddRecordAt
    cellsOf slot 8 record.dateTime.toNat ++
      cellsOf (slot + 8) 8 record.updateTick.toNat ++
      cellsOf selectorAt 4 next

end Write

/-- The image after a history of operations on an empty one. -/
def Image.after (history : List Write) : Image :=
  history.foldl Write.apply .empty

/-- Every cell that a history writes, in order. -/
def cellsWritten (history : List Write) : List Cell :=
  history.foldl (fun cells write => cells ++ write.cells (FlatMemory.zero.storeAll cells)) []

/-- The byte that a history wrote last at every address, and zero where it wrote none. -/
def FlatMemory.after (history : List Write) : FlatMemory :=
  fun address => (lastWritten? (cellsWritten history) address).getD 0

/-- **ONE OPERATION**: image and flat memory hold the same bytes afterwards if they did
before. -/
theorem Write.byte_apply (image : Image) (write : Write) :
    (write.apply image).byte = FlatMemory.storeAll image.byte (write.cells image.byte) := by
  cases write with
  | byte address value =>
      show (image.writeByte address value).byte = _
      rw [Image.byte_writeByte, Write.cells, cellsOf, UInt8.ofNat_toNat]
      rfl
  | word address value => exact Image.byte_writeWord image address value
  | double address value => exact Image.byte_writeDouble image address value
  | single address value => exact Image.byte_writeWord image address value.bits
  | regionSizes sizes =>
      show (image.writeRegionSizes sizes).byte = _
      simp only [Image.writeRegionSizes, Image.byte_writeWord, Write.cells,
        FlatMemory.storeAll_append]
  | publish record =>
      have next : (image.bus.selector + 1).toNat
          = (FlatMemory.value image.byte selectorAt 4 + 1) % 2 ^ 32 := by
        rw [UInt32.toNat_add, Bus.selector]
        show ((image.word selectorAt).toNat + 1) % 2 ^ 32 = _
        rw [Image.toNat_word]
      show (image.publish record).byte = _
      simp only [Image.publish, Image.activate, Image.storeTick, Image.storeDate,
        Image.byte_writeWord, Image.byte_writeDouble, recordAt_eq, next, Write.cells,
        FlatMemory.storeAll_append]

/-- **A WHOLE HISTORY**: the image holds at every address the byte written last. -/
theorem Image.byte_after (history : List Write) :
    (Image.after history).byte = FlatMemory.after history := by
  have run : ∀ (history : List Write) (image : Image) (cells : List Cell),
      image.byte = FlatMemory.zero.storeAll cells →
      (history.foldl Write.apply image).byte
        = FlatMemory.zero.storeAll (history.foldl
            (fun cells write => cells ++ write.cells (FlatMemory.zero.storeAll cells)) cells) := by
    -- the cells so far are the ones that later publishes read their count from
    intro history
    induction history with
    | nil => exact fun _ _ same => same
    | cons write history ih =>
        intro image cells same
        refine ih _ _ ?_
        rw [Write.byte_apply, FlatMemory.storeAll_append, same]
  have empty : Image.empty.byte = FlatMemory.zero.storeAll [] := by
    funext a
    exact Image.byte_empty a
  rw [Image.after, run history .empty [] empty]
  funext a
  exact FlatMemory.storeAll_apply _ _ _

theorem Image.after_append (history : List Write) (write : Write) :
    Image.after (history ++ [write]) = write.apply (Image.after history) := by
  rw [Image.after, List.foldl_append]
  rfl

/-! ## §2. The refinement. -/

/-- **THE IMAGE REFINES FLAT MEMORY**: after any history, every read of every width is
the value of the bytes written last, lowest first, at addresses that wrap; what was just
written reads back; and no operation changes a byte that is not one of its cells. -/
theorem history_refines_flat_memory (history : List Write) :
    (∀ a, (Image.after history).bus.byte a = FlatMemory.after history a
      ∧ ((Image.after history).bus.word a).toNat = (FlatMemory.after history).value a 4
      ∧ ((Image.after history).bus.double a).toNat = (FlatMemory.after history).value a 8
      ∧ ((Image.after history).bus.single a).bits = (Image.after history).bus.word a)
    ∧ (∀ a v, (Image.after (history ++ [.byte a v])).bus.byte a = v)
    ∧ (∀ a v, (Image.after (history ++ [.word a v])).bus.word a = v)
    ∧ (∀ a v, (Image.after (history ++ [.double a v])).bus.double a = v)
    ∧ (∀ a v, (Image.after (history ++ [.single a v])).bus.single a = v)
    ∧ (∀ write a, a ∉ (write.cells (FlatMemory.after history)).map (·.1) →
        (Image.after (history ++ [write])).bus.byte a = (Image.after history).bus.byte a) := by
  have bytes := Image.byte_after history
  refine ⟨fun a => ⟨congrFun bytes a, ?_, ?_, rfl⟩, ?_, ?_, ?_, ?_, ?_⟩
  · rw [← bytes]
    exact Image.toNat_word _ a
  · rw [← bytes]
    exact Image.toNat_double _ a
  · intro a v
    show (Image.after _).byte a = v
    rw [Image.after_append]
    show ((Image.after history).writeByte a v).byte a = v
    rw [Image.byte_writeByte, FlatMemory.store, if_pos rfl]
  · intro a v
    rw [Image.after_append]
    exact Image.word_writeWord _ a v
  · intro a v
    rw [Image.after_append]
    exact Image.double_writeDouble _ a v
  · intro a v
    rw [Image.after_append]
    exact Image.single_writeSingle _ a v
  · intro write a outside
    show (Image.after _).byte a = (Image.after history).byte a
    rw [Image.after_append, Write.byte_apply, bytes]
    exact FlatMemory.storeAll_of_notMem _ outside

/-- A word at the top of the address space, and then a 64-bit value over it that
continues at zero: the byte at 4 is no cell of it. -/
theorem history_refines_flat_memory_at_the_top :
    (4 : UInt32) ∉ ((Write.double 0xFFFFFFFC 0xAABBCCDD00112233).cells
        (FlatMemory.after [.word 0xFFFFFFFC 0x12345678])).map (·.1)
    ∧ (Image.after ([.word 0xFFFFFFFC 0x12345678] ++
        [.double 0xFFFFFFFC 0xAABBCCDD00112233])).bus.byte 4
      = (Image.after [.word 0xFFFFFFFC 0x12345678]).bus.byte 4 := by
  have outside : (4 : UInt32) ∉ ((Write.double 0xFFFFFFFC 0xAABBCCDD00112233).cells
      (FlatMemory.after [.word 0xFFFFFFFC 0x12345678])).map (·.1) := by
    simp [Write.cells, cellsOf]
  obtain ⟨-, -, -, -, -, frame⟩ := history_refines_flat_memory [.word 0xFFFFFFFC 0x12345678]
  exact ⟨outside, frame (.double 0xFFFFFFFC 0xAABBCCDD00112233) 4 outside⟩

end Horizon
