/-
  Horizon.Proofs.Console.Updates
  ──────────────────────────────
  **THE REGISTER PAGES FOLLOW THE SETTINGS.**

  The pages of a console show its settings: every named read gives the value of one
  setting.  An update writes sizes or publishes a record, and the pages then show the
  settings with just that changed:

      pages      Image.ofConfig c  ── apply ──▶  image  ── apply ──▶  image'
                        │ shows                    │ shows              │ shows
      settings          c         ── settings ─▶   c'  ── settings ─▶   c''

  So after any updates the sizes are those written last, the active record is the one
  published last, and all other registers still show the settings of the beginning.
-/
import Horizon.Proofs.Console.Pages
import Horizon.Proofs.DateTime.History

namespace Horizon

open Registers
open Binary (Single)

namespace Image

variable (image : Image)

/-! ## §1. What writing sizes leaves alone. -/

/-- Writing the sizes does not touch the word at an address. -/
structure Unsized (a : UInt32) : Prop where
  application : Apart regionSizesAt 4 a
  system : Apart (regionSizesAt + 4) 4 a
  base : Apart (regionSizesAt + 8) 4 a

instance (a : UInt32) : Decidable (Unsized a) :=
  decidable_of_iff (Apart regionSizesAt 4 a ∧ Apart (regionSizesAt + 4) 4 a ∧
      Apart (regionSizesAt + 8) 4 a)
    ⟨fun ⟨h0, h1, h2⟩ => ⟨h0, h1, h2⟩, fun h => ⟨h.application, h.system, h.base⟩⟩

variable (sizes : RegionBytes)

theorem word_writeRegionSizes_of_unsized {a : UInt32} (h : Unsized a) :
    (image.writeRegionSizes sizes).word a = image.word a := by
  rw [writeRegionSizes, word_writeWord_of_apart _ _ h.base, word_writeWord_of_apart _ _ h.system,
    word_writeWord_of_apart _ _ h.application]

theorem wifiStrength_bus : image.bus.wifiStrength = image.byte wifiStrengthAt := rfl

theorem wifiStrength_writeRegionSizes :
    (image.writeRegionSizes sizes).bus.wifiStrength = image.bus.wifiStrength := by
  rw [wifiStrength_bus, wifiStrength_bus, writeRegionSizes,
    byte_writeWord_of_beyond _ _ (by decide), byte_writeWord_of_beyond _ _ (by decide),
    byte_writeWord_of_beyond _ _ (by decide)]

theorem dateTime_writeRegionSizes :
    (image.writeRegionSizes sizes).bus.dateTime = image.bus.dateTime := by
  have kept {a : UInt32} (h : Unsized a) :
      (image.writeRegionSizes sizes).bus.word a = image.bus.word a :=
    word_writeRegionSizes_of_unsized image sizes h
  have count : (image.writeRegionSizes sizes).bus.selector = image.bus.selector :=
    kept (by decide)
  -- the same slot stays active, and the words of both slots are kept
  rw [Bus.dateTime_eq, Bus.dateTime_eq, count]
  rcases recordAt_mem image.bus.selector with slot | slot <;> rw [slot] <;>
    exact recordIn_congr (double_congr (kept (by decide)) (kept (by decide)))
      (double_congr (kept (by decide)) (kept (by decide)))

/-! ## §2. Pages that show settings. -/

end Image

/-- Every register shows its setting. -/
structure Bus.Shows (bus : Bus) (c : SimulationConfig) : Prop where
  kernelVersion : bus.word kernelVersionAt = c.kernelVersion.raw
  firmVersion : bus.word firmVersionAt = c.firmVersion.raw
  coreVersion : bus.coreVersion = c.coreVersion
  appMemType : bus.appMemType = c.appMemType
  regionSizes : bus.regionSizes = c.regionSizes
  wifiStrength : bus.wifiStrength = c.wifiStrength
  slider3d : bus.slider3d = c.slider3d
  dateTime : bus.dateTime = ⟨c.dateTimeMs, c.startTick⟩

namespace Image

/-- What stands on the pages before the sizes are written. -/
def versionsOf (c : SimulationConfig) : Image :=
  (((empty.writeWord kernelVersionAt c.kernelVersion.raw).writeWord
    firmVersionAt c.firmVersion.raw).writeWord coreVersionAt c.coreVersion).writeWord
      appMemTypeAt c.appMemType

/-- No write from the sizes on touches the words in front of them. -/
theorem word_ofConfig (c : SimulationConfig) {a : UInt32} (sizes : Unsized a)
    (wifi : Apart wifiStrengthAt 1 a) (slider : Apart sliderAt 4 a) (shared : Unpublished a) :
    (ofConfig c).word a = (versionsOf c).word a := by
  have stages : ofConfig c = ((((versionsOf c).writeRegionSizes c.regionSizes).writeByte
      wifiStrengthAt c.wifiStrength).writeSingle sliderAt c.slider3d).publish
        ⟨c.dateTimeMs, c.startTick⟩ := rfl
  rw [stages, word_publish_of_unpublished _ shared, writeSingle,
    word_writeWord_of_apart _ _ slider, word_writeByte_of_apart _ _ wifi,
    word_writeRegionSizes_of_unsized _ _ sizes]

theorem wifiStrength_ofConfig (c : SimulationConfig) :
    (ofConfig c).bus.wifiStrength = c.wifiStrength := by
  rw [wifiStrength_bus, ofConfig, byte_publish_of_elsewhere _ _ (by decide), writeSingle,
    byte_writeWord_of_beyond _ _ (by decide), byte_writeByte, FlatMemory.store, if_pos rfl]

theorem slider_ofConfig (c : SimulationConfig) :
    (ofConfig c).word sliderAt = c.slider3d.bits := by
  rw [ofConfig, word_publish_of_unpublished _ (by decide), writeSingle, word_writeWord]

/-- **The pages of a console show its settings.** -/
theorem shows_ofConfig (c : SimulationConfig) : (ofConfig c).bus.Shows c := by
  -- of the four words at the start, each lies apart from those written after it
  have kernel : (ofConfig c).word kernelVersionAt = c.kernelVersion.raw := by
    rw [word_ofConfig c (by decide) (by decide) (by decide) (by decide), versionsOf,
      word_writeWord_of_apart _ _ (by decide), word_writeWord_of_apart _ _ (by decide),
      word_writeWord_of_apart _ _ (by decide), word_writeWord]
  have firm : (ofConfig c).word firmVersionAt = c.firmVersion.raw := by
    rw [word_ofConfig c (by decide) (by decide) (by decide) (by decide), versionsOf,
      word_writeWord_of_apart _ _ (by decide), word_writeWord_of_apart _ _ (by decide),
      word_writeWord]
  have core : (ofConfig c).word coreVersionAt = c.coreVersion := by
    rw [word_ofConfig c (by decide) (by decide) (by decide) (by decide), versionsOf,
      word_writeWord_of_apart _ _ (by decide), word_writeWord]
  have memType : (ofConfig c).word appMemTypeAt = c.appMemType := by
    rw [word_ofConfig c (by decide) (by decide) (by decide) (by decide), versionsOf,
      word_writeWord]
  exact ⟨kernel, firm, core, memType, regionSizes_ofConfig c, wifiStrength_ofConfig c,
    congrArg Single.mk (slider_ofConfig c), dateTime_ofConfig c⟩

end Image

/-! ## §3. Updates. -/

/-- A change that the kernel makes to the pages later on. -/
inductive PageUpdate where
  /-- The sizes of the memory regions are written. -/
  | regionSizes (sizes : RegionBytes)
  /-- A date and time record is published. -/
  | publish (record : DateTimeRecord)
  deriving Repr, DecidableEq

namespace PageUpdate

/-- What the update does to the pages. -/
def apply (image : Image) : PageUpdate → Image
  | .regionSizes sizes => image.writeRegionSizes sizes
  | .publish record => image.publish record

/-- The settings that the pages show after the update. -/
def settings (c : SimulationConfig) : PageUpdate → SimulationConfig
  | .regionSizes sizes => { c with regionSizes := sizes }
  | .publish record => { c with dateTimeMs := record.dateTime, startTick := record.updateTick }

/-- The sizes that the update writes, if it does. -/
def sizes? : PageUpdate → Option RegionBytes
  | .regionSizes sizes => some sizes
  | .publish _ => none

/-- The record that the update publishes, if it does. -/
def record? : PageUpdate → Option DateTimeRecord
  | .regionSizes _ => none
  | .publish record => some record

variable {image : Image} {c : SimulationConfig}

/-- Sizes that are written show, and every other register stays as it was. -/
theorem shows_writeRegionSizes (h : image.bus.Shows c) (sizes : RegionBytes) :
    (image.writeRegionSizes sizes).bus.Shows { c with regionSizes := sizes } := by
  have kept {a : UInt32} (apart : Image.Unsized a) :
      (image.writeRegionSizes sizes).word a = image.word a :=
    Image.word_writeRegionSizes_of_unsized image sizes apart
  exact {
    kernelVersion := (kept (by decide)).trans h.kernelVersion
    firmVersion := (kept (by decide)).trans h.firmVersion
    coreVersion := (kept (by decide)).trans h.coreVersion
    appMemType := (kept (by decide)).trans h.appMemType
    regionSizes := Image.regionSizes_writeRegionSizes image sizes
    wifiStrength := (Image.wifiStrength_writeRegionSizes image sizes).trans h.wifiStrength
    slider3d := (congrArg Single.mk (kept (by decide))).trans h.slider3d
    dateTime := (Image.dateTime_writeRegionSizes image sizes).trans h.dateTime }

/-- A record that is published is the active one, and every register but its own stays as
it was. -/
theorem shows_publish (h : image.bus.Shows c) (record : DateTimeRecord) :
    (image.publish record).bus.Shows
      { c with dateTimeMs := record.dateTime, startTick := record.updateTick } := by
  have kept {a : UInt32} (apart : Image.Unpublished a) :
      (image.publish record).word a = image.word a :=
    Image.word_publish_of_unpublished image apart record
  have sizes : (image.publish record).bus.regionSizes = image.bus.regionSizes :=
    Image.regionSizes_eq (kept (by decide)) (kept (by decide)) (kept (by decide))
  have wifi : (image.publish record).bus.wifiStrength = image.bus.wifiStrength := by
    rw [Image.wifiStrength_bus, Image.wifiStrength_bus,
      Image.byte_publish_of_elsewhere image record (by decide)]
  exact {
    kernelVersion := (kept (by decide)).trans h.kernelVersion
    firmVersion := (kept (by decide)).trans h.firmVersion
    coreVersion := (kept (by decide)).trans h.coreVersion
    appMemType := (kept (by decide)).trans h.appMemType
    regionSizes := sizes.trans h.regionSizes
    wifiStrength := wifi.trans h.wifiStrength
    slider3d := (congrArg Single.mk (kept (by decide))).trans h.slider3d
    dateTime := Image.dateTime_publish image record }

/-- **ONE UPDATE**: pages that show settings show the updated ones afterwards. -/
theorem shows_apply (h : image.bus.Shows c) (update : PageUpdate) :
    (update.apply image).bus.Shows (update.settings c) := by
  cases update with
  | regionSizes sizes => exact shows_writeRegionSizes h sizes
  | publish record => exact shows_publish h record

/-- **ANY UPDATES**: the same, one after another. -/
theorem shows_foldl (h : image.bus.Shows c) (updates : List PageUpdate) :
    (updates.foldl apply image).bus.Shows (updates.foldl settings c) := by
  induction updates generalizing image c with
  | nil => exact h
  | cons update updates ih => exact ih (shows_apply h update)

/-- Updates leave the settings with the sizes and the record that came last. -/
theorem foldl_settings (c : SimulationConfig) (updates : List PageUpdate) :
    updates.foldl settings c =
      { c with
        regionSizes := (updates.filterMap sizes?).getLast?.getD c.regionSizes
        dateTimeMs :=
          ((updates.filterMap record?).getLast?.getD ⟨c.dateTimeMs, c.startTick⟩).dateTime
        startTick :=
          ((updates.filterMap record?).getLast?.getD ⟨c.dateTimeMs, c.startTick⟩).updateTick } := by
  induction updates generalizing c with
  | nil => rfl
  | cons update updates ih =>
      -- the first update stands only where none of its kind follows
      rw [List.foldl_cons, ih]
      cases update with
      | regionSizes sizes =>
          simp only [settings, sizes?, record?, List.filterMap_cons, List.getLast?_cons,
            Option.getD_some]
      | publish record =>
          simp only [settings, sizes?, record?, List.filterMap_cons, List.getLast?_cons,
            Option.getD_some]

end PageUpdate

/-! ## §4. What every named read gives. -/

/-- **THE PAGES OF A CONSOLE READ BACK AS ITS SETTINGS**, right away and after any updates:
both versions with their low byte cleared, the sizes as written last, their total modulo
2^32, the record as published last, and everything else as set. -/
theorem registers_read_back (c : SimulationConfig) (updates : List PageUpdate) :
    let bus := (updates.foldl PageUpdate.apply (Image.ofConfig c)).bus
    let sizes := (updates.filterMap (·.sizes?)).getLast?.getD c.regionSizes
    bus.kernelVersion.toNat = c.kernelVersion.raw.toNat / 256 * 256
    ∧ bus.kernel.raw = bus.kernelVersion
    ∧ bus.firmVersion.toNat = c.firmVersion.raw.toNat / 256 * 256
    ∧ bus.firm.raw = bus.firmVersion
    ∧ bus.coreVersion = c.coreVersion
    ∧ bus.appMemType = c.appMemType
    ∧ bus.wifiStrength = c.wifiStrength
    ∧ bus.slider3d.bits = c.slider3d.bits
    ∧ bus.regionSize .application = sizes.application
    ∧ bus.regionSize .system = sizes.system
    ∧ bus.regionSize .base = sizes.base
    ∧ (bus.regionSize .all).toNat
        = (sizes.application.toNat + sizes.system.toNat + sizes.base.toNat) % 2 ^ 32
    ∧ bus.dateTime
        = (updates.filterMap (·.record?)).getLast?.getD ⟨c.dateTimeMs, c.startTick⟩ := by
  intro bus sizes
  have shows : bus.Shows (updates.foldl PageUpdate.settings c) :=
    PageUpdate.shows_foldl (Image.shows_ofConfig c) updates
  rw [PageUpdate.foldl_settings] at shows
  have counts (region : MemRegion) : bus.regionSize region = sizes.count region :=
    congrArg (RegionBytes.count · region) shows.regionSizes
  refine ⟨?_, rfl, ?_, rfl, shows.coreVersion, shows.appMemType, shows.wifiStrength,
    congrArg Single.bits shows.slider3d, counts .application, counts .system, counts .base, ?_,
    shows.dateTime⟩
  · rw [Bus.kernelVersion, shows.kernelVersion, toNat_and_not_lowByte]
  · rw [Bus.firmVersion, shows.firmVersion, toNat_and_not_lowByte]
  · rw [counts, RegionBytes.toNat_count_all]
    rfl

end Horizon
