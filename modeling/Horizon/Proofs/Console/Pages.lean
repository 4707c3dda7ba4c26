/-
  Horizon.Proofs.Console.Pages
  ────────────────────────────
  **THE REGISTER PAGES OF A SIMULATED CONSOLE.**

  The pages are filled by one write after another.  A register reads back as its setting
  because no later write touches it, and the one that comes last, the publish, touches no
  more than the two records and the count:

      sizes │ Wi-Fi │ slider │ even record, odd record, count
        └── no write on the right of a register touches it
-/
import Horizon.Console
import Horizon.Proofs.DateTime.Publish

namespace Horizon

open Registers

/-! ## §1. Sums of regions. -/

/-- What the three regions proper come to, without a limit. -/
def MemRegion.total (amount : MemRegion → UInt32) : Nat :=
  (amount .application).toNat + (amount .system).toNat + (amount .base).toNat

/-- The count of all regions is the sum of the three, unless that passes a word. -/
theorem RegionBytes.toNat_count_all (bytes : RegionBytes) :
    (bytes.count .all).toNat = MemRegion.total bytes.count % 2 ^ 32 := by
  show (bytes.application + bytes.system + bytes.base).toNat = _
  rw [UInt32.toNat_add, UInt32.toNat_add, Nat.mod_add_mod]
  rfl

namespace Image

variable (image : Image)

/-! ## §2. What the later writes leave alone. -/

theorem word_writeByte_of_apart {address a : UInt32} (value : UInt8)
    (apart : Apart address 1 a) : (image.writeByte address value).word a = image.word a := by
  rw [← UInt32.toNat_inj, toNat_word, toNat_word, byte_writeByte]
  refine FlatMemory.value_congr a 4 fun i hi => ?_
  refine if_neg fun same => ?_
  have distance := apart i hi
  rw [same, UInt32.sub_self] at distance
  exact absurd distance (by decide)

/-- No publish touches the word at an address: it lies in neither record and is not the
count. -/
structure Unpublished (a : UInt32) : Prop where
  evenDate : Apart evenRecordAt 8 a
  evenTick : Apart (evenRecordAt + 8) 8 a
  oddDate : Apart oddRecordAt 8 a
  oddTick : Apart (oddRecordAt + 8) 8 a
  count : Apart selectorAt 4 a

instance (a : UInt32) : Decidable (Unpublished a) :=
  decidable_of_iff (Apart evenRecordAt 8 a ∧ Apart (evenRecordAt + 8) 8 a ∧
      Apart oddRecordAt 8 a ∧ Apart (oddRecordAt + 8) 8 a ∧ Apart selectorAt 4 a)
    ⟨fun ⟨h0, h1, h2, h3, h4⟩ => ⟨h0, h1, h2, h3, h4⟩,
      fun h => ⟨h.evenDate, h.evenTick, h.oddDate, h.oddTick, h.count⟩⟩

theorem word_publish_of_unpublished {a : UInt32} (h : Unpublished a)
    (record : DateTimeRecord) : (image.publish record).word a = image.word a := by
  unfold publish activate storeTick storeDate
  dsimp only
  rw [word_writeWord_of_apart _ _ h.count]
  rcases recordAt_mem (image.bus.selector + 1) with slot | slot <;> rw [slot]
  · rw [word_writeDouble_of_apart _ _ h.evenTick, word_writeDouble_of_apart _ _ h.evenDate]
  · rw [word_writeDouble_of_apart _ _ h.oddTick, word_writeDouble_of_apart _ _ h.oddDate]

/-! ## §3. Registers that read back. -/

theorem regionSizes_eq {bus : Bus} {sizes : RegionBytes}
    (application : bus.word regionSizesAt = sizes.application)
    (system : bus.word (regionSizesAt + 4) = sizes.system)
    (base : bus.word (regionSizesAt + 8) = sizes.base) : bus.regionSizes = sizes := by
  rw [Bus.regionSizes, application, system, base]

theorem regionSizes_writeRegionSizes (sizes : RegionBytes) :
    (image.writeRegionSizes sizes).bus.regionSizes = sizes := by
  unfold writeRegionSizes
  refine regionSizes_eq ?_ ?_ (word_writeWord _ _ _)
  · show Image.word _ _ = _
    rw [word_writeWord_of_apart _ _ (by decide), word_writeWord_of_apart _ _ (by decide),
      word_writeWord]
  · show Image.word _ _ = _
    rw [word_writeWord_of_apart _ _ (by decide), word_writeWord]

/-- **The sizes of the regions are the ones of the settings.** -/
theorem regionSizes_ofConfig (c : SimulationConfig) :
    (ofConfig c).bus.regionSizes = c.regionSizes := by
  -- three writes follow that of the sizes
  have kept {image : Image} {a : UInt32} (h : Unpublished a) (wifi : Apart wifiStrengthAt 1 a)
      (slider : Apart sliderAt 4 a) :
      (((image.writeByte wifiStrengthAt c.wifiStrength).writeSingle sliderAt
        c.slider3d).publish ⟨c.dateTimeMs, c.startTick⟩).word a = image.word a := by
    rw [word_publish_of_unpublished _ h, writeSingle, word_writeWord_of_apart _ _ slider,
      word_writeByte_of_apart _ _ wifi]
  have sizes (image : Image) := regionSizes_writeRegionSizes image c.regionSizes
  refine regionSizes_eq ?_ ?_ ?_
  · exact (kept (by decide) (by decide) (by decide)).trans
      (congrArg RegionBytes.application (sizes _))
  · exact (kept (by decide) (by decide) (by decide)).trans
      (congrArg RegionBytes.system (sizes _))
  · exact (kept (by decide) (by decide) (by decide)).trans
      (congrArg RegionBytes.base (sizes _))

/-- **The active record is the one of the settings.** -/
theorem dateTime_ofConfig (c : SimulationConfig) :
    (ofConfig c).bus.dateTime = ⟨c.dateTimeMs, c.startTick⟩ :=
  dateTime_publish _ _

end Image

end Horizon
