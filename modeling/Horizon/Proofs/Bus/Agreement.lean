/-
  Horizon.Proofs.Bus.Agreement
  ────────────────────────────
  **A WINDOW AND AN IMAGE WITH THE SAME BYTES.**

  A window keeps its bytes in an array and looks each access up as a whole; an image keeps
  them in a map and puts each access together from single bytes.  Of an image that holds
  just the bytes of a window they show the same,

      word     all four bytes inside    the same value on both
               all four bytes outside   zero on both
               some inside, some not    zero on the window, its bytes on the image

  so that registers that a window shows as a whole read the same on both.
-/
import Horizon.Bus.Window
import Horizon.Proofs.Bus.FlatMemory
import Horizon.Proofs.DateTime.Reads

namespace Horizon

open Registers

/-! ## §1. The image of a window. -/

/-- Writing bytes at consecutive addresses changes just those addresses. -/
theorem Image.byte_writeBytes_eq (image : Image) (address : UInt32) (bytes : List UInt8)
    (fits : bytes.length ≤ 2 ^ 32) (a : UInt32) :
    (image.writeBytes address bytes).byte a
      = bytes[(a - address).toNat]?.getD (image.byte a) := by
  induction bytes generalizing image address with
  | nil => rfl
  | cons value rest ih =>
      rw [List.length_cons] at fits
      show ((image.writeByte address value).writeBytes (address + 1) rest).byte a = _
      rw [ih _ _ (by omega), byte_writeByte, FlatMemory.store]
      by_cases here : a = address
      · -- the rest would have to wrap around all of memory to meet the first address
        have beyond : rest[(a - (address + 1)).toNat]? = none := by
          rw [here, FlatMemory.toNat_sub_succ, List.getElem?_eq_none_iff]
          omega
        rw [beyond, if_pos here, here, UInt32.sub_self]
        rfl
      · rw [FlatMemory.toNat_sub_of_ne here, if_neg here, List.getElem?_cons_succ]

/-- A word is put together from the four bytes from its address on. -/
theorem Image.word_eq_of_bytes {image : Image} {a : UInt32} {value : Nat → UInt8}
    (bytes : ∀ i < 4, image.byte (a + UInt32.ofNat i) = value i) :
    image.word a = Bus.joinBytes (value 0) (value 1) (value 2) (value 3) := by
  rw [← bytes 0 (by decide), ← bytes 1 (by decide), ← bytes 2 (by decide), ← bytes 3 (by decide),
    show a + UInt32.ofNat 0 = a from UInt32.add_zero a]
  rfl

namespace Window

variable (window : Window)

/-- An image that holds the bytes of the window at their addresses, and nothing else. -/
def image : Image :=
  Image.empty.writeBytes window.origin window.content.toList

/-- The bytes of the window end no later than the address space does. -/
structure Fits : Prop where
  short : window.content.size < 2 ^ 32
  ending : window.origin.toNat + window.content.size ≤ 2 ^ 32

/-- The window shows the byte at an address. -/
def Shows (a : UInt32) : Prop :=
  window.origin.toNat ≤ a.toNat ∧ a.toNat < window.origin.toNat + window.content.size

instance (a : UInt32) : Decidable (window.Shows a) := by
  unfold Shows
  infer_instance

/-- The window shows all bytes of an access. -/
def Covers (a : UInt32) (width : Nat) : Prop :=
  ∀ i < width, window.Shows (a + UInt32.ofNat i)

/-- The window shows no byte of an access. -/
def Misses (a : UInt32) (width : Nat) : Prop :=
  ∀ i < width, ¬window.Shows (a + UInt32.ofNat i)

instance (a : UInt32) (width : Nat) : Decidable (window.Covers a width) := by
  unfold Covers
  infer_instance

instance (a : UInt32) (width : Nat) : Decidable (window.Misses a width) := by
  unfold Misses
  infer_instance

variable {window}

/-- The part of a covered access that begins some bytes later is covered. -/
theorem Covers.part {a : UInt32} {width : Nat} (covered : window.Covers a width)
    (later : Nat) {narrow : Nat} (inside : later + narrow ≤ width) :
    window.Covers (a + UInt32.ofNat later) narrow := by
  intro i hi
  have shown := covered (later + i) (by omega)
  rwa [UInt32.ofNat_add, ← UInt32.add_assoc] at shown

/-! ## §2. Which accesses a window grants. -/

/-- No access that is granted leaves the content. -/
theorem offset?_inside {a : UInt32} {width offset : Nat}
    (granted : window.offset? a width = some offset) : offset + width ≤ window.content.size := by
  unfold offset? at granted
  dsimp only at granted
  split at granted
  · split at granted
    · rename_i fits
      cases granted
      exact Nat.le_trans fits (Nat.min_le_left _ _)
    · cases granted
  · cases granted

theorem offset?_eq (fits : window.Fits) (a : UInt32) (width : Nat) :
    window.offset? a width =
      if window.origin.toNat ≤ a.toNat
          ∧ a.toNat + width ≤ window.origin.toNat + window.content.size then
        some (a.toNat - window.origin.toNat)
      else none := by
  have short := fits.short
  have length : window.length = window.content.size := Nat.min_eq_left (by omega)
  unfold offset?
  rw [length]
  by_cases above : window.origin.toNat ≤ a.toNat
  · have le : window.origin ≤ a := UInt32.le_iff_toNat_le.mpr above
    have distance : (a - window.origin).toNat = a.toNat - window.origin.toNat :=
      UInt32.toNat_sub_of_le a window.origin le
    rw [if_pos le]
    dsimp only
    rw [distance]
    by_cases inside : a.toNat - window.origin.toNat + width ≤ window.content.size
    · rw [if_pos inside, if_pos ⟨above, by omega⟩]
    · rw [if_neg inside, if_neg (by omega)]
  · rw [if_neg (fun le => above (UInt32.le_iff_toNat_le.mp le)), if_neg (fun h => above h.1)]

/-- Four addresses in a row that are all shown do not wrap: the window would have to be as
long as the address space. -/
theorem covers_word_iff (fits : window.Fits) (a : UInt32) :
    window.Covers a 4 ↔ window.origin.toNat ≤ a.toNat
      ∧ a.toNat + 4 ≤ window.origin.toNat + window.content.size := by
  have short := fits.short
  have ending := fits.ending
  have address (i : Nat) (hi : i < 4) :
      (a + UInt32.ofNat i).toNat = (a.toNat + i) % 2 ^ 32 := by
    rw [UInt32.toNat_add, UInt32.toNat_ofNat', Nat.mod_eq_of_lt (a := i) (by omega)]
  have ha := a.toNat_lt
  constructor
  · intro covered
    -- across the wrap the last address and the first would both be shown, which is too much
    have first := covered 0 (by decide)
    have second := covered 1 (by decide)
    have third := covered 2 (by decide)
    have fourth := covered 3 (by decide)
    unfold Shows at first second third fourth
    rw [address _ (by decide)] at first second third fourth
    omega
  · intro inside i hi
    unfold Shows
    rw [address i hi]
    omega

/-! ## §3. Bytes and words. -/

theorem byte_eq (fits : window.Fits) (a : UInt32) :
    window.byte a
      = if window.Shows a then window.contentAt (a.toNat - window.origin.toNat) else 0 := by
  unfold byte
  rw [offset?_eq fits]
  by_cases shown : window.Shows a
  · rw [if_pos shown, if_pos ⟨shown.1, shown.2⟩]
  · rw [if_neg shown, if_neg fun h => shown ⟨h.1, h.2⟩]

/-- **Bytes agree everywhere.** -/
theorem byte_image (fits : window.Fits) (a : UInt32) : window.image.byte a = window.byte a := by
  have ha := a.toNat_lt
  have hw := window.origin.toNat_lt
  have short := fits.short
  have ending := fits.ending
  rw [byte_eq fits, image,
    Image.byte_writeBytes_eq _ _ _ (by rw [Array.length_toList]; omega), Image.byte_empty,
    Array.getElem?_toList, UInt32.toNat_sub]
  by_cases shown : window.Shows a
  · -- the distance from the first byte is the offset in the content
    have distance : (2 ^ 32 - window.origin.toNat + a.toNat) % 2 ^ 32
        = a.toNat - window.origin.toNat := by
      have le := shown.1
      omega
    rw [if_pos shown, distance, contentAt, Array.getD_eq_getD_getElem?]
  · -- before the first byte the distance wraps, past the last it is too long
    have beyond : window.content.size
        ≤ (2 ^ 32 - window.origin.toNat + a.toNat) % 2 ^ 32 := by
      unfold Shows at shown
      omega
    rw [if_neg shown, Array.getElem?_eq_none beyond]
    rfl

/-- A covered word is put together from the bytes. -/
theorem word_of_covers (fits : window.Fits) {a : UInt32} (covered : window.Covers a 4) :
    window.word a = window.image.word a := by
  have inside := (covers_word_iff fits a).mp covered
  have single (i : Nat) (hi : i < 4) : window.image.byte (a + UInt32.ofNat i)
      = window.contentAt (a.toNat - window.origin.toNat + i) := by
    have ending := fits.ending
    have address : (a + UInt32.ofNat i).toNat = a.toNat + i := by
      rw [UInt32.toNat_add, UInt32.toNat_ofNat', Nat.mod_eq_of_lt (a := i) (by omega)]
      omega
    have offset : a.toNat + i - window.origin.toNat = a.toNat - window.origin.toNat + i := by
      omega
    rw [byte_image fits, byte_eq fits, if_pos (covered i hi), address, offset]
  rw [Image.word_eq_of_bytes single, word, offset?_eq fits, if_pos inside]
  rfl

/-- A word that is not covered reads as zero, even where some of its bytes are shown. -/
theorem word_of_not_covers (fits : window.Fits) {a : UInt32} (straddling : ¬window.Covers a 4) :
    window.word a = 0 := by
  unfold word
  rw [offset?_eq fits, if_neg fun inside => straddling ((covers_word_iff fits a).mpr inside)]

theorem word_image_of_misses (fits : window.Fits) {a : UInt32} (missed : window.Misses a 4) :
    window.image.word a = 0 := by
  have zero (i : Nat) (hi : i < 4) : window.image.byte (a + UInt32.ofNat i) = 0 := by
    rw [byte_image fits, byte_eq fits, if_neg (missed i hi)]
  rw [Image.word_eq_of_bytes zero]
  rfl

/-- **Words agree unless the window shows a part of them only.** -/
theorem word_image (fits : window.Fits) {a : UInt32}
    (whole : window.Covers a 4 ∨ window.Misses a 4) : window.word a = window.image.word a := by
  rcases whole with covered | missed
  · exact word_of_covers fits covered
  · have straddling : ¬window.Covers a 4 := fun covered =>
      missed 0 (by decide) (covered 0 (by decide))
    rw [word_of_not_covers fits straddling, word_image_of_misses fits missed]

end Window

/-! ## §4. Registers. -/

/-- The registers that the size of a region is read from. -/
def MemRegion.sizeRegisters : MemRegion → List UInt32
  | .all => [regionSizesAt, regionSizesAt + 4, regionSizesAt + 8]
  | .application => [regionSizesAt]
  | .system => [regionSizesAt + 4]
  | .base => [regionSizesAt + 8]

namespace Window

variable {window : Window}

/-- The two buses show the same registers, each as soon as the window covers what it is
read from. -/
structure SameRegisters (window : Window) : Prop where
  kernel : window.Covers kernelVersionAt 4 →
    window.bus.kernelVersion = window.image.bus.kernelVersion
      ∧ window.bus.kernel = window.image.bus.kernel
  firm : window.Covers firmVersionAt 4 →
    window.bus.firmVersion = window.image.bus.firmVersion
      ∧ window.bus.firm = window.image.bus.firm
  coreVersion : window.Covers coreVersionAt 4 →
    window.bus.coreVersion = window.image.bus.coreVersion
  appMemType : window.Covers appMemTypeAt 4 →
    window.bus.appMemType = window.image.bus.appMemType
  regionSize : ∀ region : MemRegion, (∀ a ∈ region.sizeRegisters, window.Covers a 4) →
    window.bus.regionSize region = window.image.bus.regionSize region
  wifiStrength : window.Covers wifiStrengthAt 1 →
    window.bus.wifiStrength = window.image.bus.wifiStrength
  slider3d : window.Covers sliderAt 4 → window.bus.slider3d = window.image.bus.slider3d
  selector : window.Covers selectorAt 4 → window.bus.selector = window.image.bus.selector
  dateTime : window.Covers selectorAt 4 → window.Covers (recordAt window.bus.selector) 16 →
    window.bus.dateTime = window.image.bus.dateTime
      ∧ ∀ fuel, readAttempts (fun _ => window.bus) fuel
          = readAttempts (fun _ => window.image.bus) fuel

theorem regionSize_image (fits : window.Fits) {region : MemRegion}
    (covered : ∀ a ∈ region.sizeRegisters, window.Covers a 4) :
    window.bus.regionSize region = window.image.bus.regionSize region := by
  have same (a : UInt32) (ha : a ∈ region.sizeRegisters) : window.word a = window.image.word a :=
    word_of_covers fits (covered a ha)
  cases region with
  | all =>
      show window.word _ + window.word _ + window.word _ = _
      rw [same regionSizesAt (by decide), same (regionSizesAt + 4) (by decide),
        same (regionSizesAt + 8) (by decide)]
      rfl
  | application => exact same regionSizesAt (by decide)
  | system => exact same (regionSizesAt + 4) (by decide)
  | base => exact same (regionSizesAt + 8) (by decide)

/-- One attempt to read the active record makes the same six reads on both. -/
theorem attempt_image (fits : window.Fits) (counted : window.Covers selectorAt 4)
    (recorded : window.Covers (recordAt window.bus.selector) 16) :
    (ReadAttempt.run fun _ => window.bus) = ReadAttempt.run fun _ => window.image.bus := by
  have count : window.bus.selector = window.image.bus.selector := word_of_covers fits counted
  have same (a : UInt32) (later : Nat) (inside : later + 4 ≤ 16)
      (place : recordAt window.bus.selector + UInt32.ofNat later = a) :
      window.bus.word a = window.image.bus.word a := by
    rw [← place]
    exact word_of_covers fits (recorded.part later inside)
  have first := same (recordAt window.bus.selector) 0 (by decide) (UInt32.add_zero _)
  have second := same (recordAt window.bus.selector + 4) 4 (by decide) rfl
  have third := same (recordAt window.bus.selector + 8) 8 (by decide) rfl
  have fourth := same (recordAt window.bus.selector + 8 + 4) 12 (by decide)
    (UInt32.add_assoc _ 8 4).symm
  rw [ReadAttempt.run_eq, ReadAttempt.run_eq, ← count, first, second, third, fourth]

theorem sameRegisters (fits : window.Fits) : window.SameRegisters where
  kernel covered := by
    have same : window.bus.kernelVersion = window.image.bus.kernelVersion :=
      congrArg (· &&& ~~~0xFF) (word_of_covers fits covered)
    exact ⟨same, congrArg SystemVersion.mk same⟩
  firm covered := by
    have same : window.bus.firmVersion = window.image.bus.firmVersion :=
      congrArg (· &&& ~~~0xFF) (word_of_covers fits covered)
    exact ⟨same, congrArg SystemVersion.mk same⟩
  coreVersion covered := word_of_covers fits covered
  appMemType covered := word_of_covers fits covered
  regionSize _ covered := regionSize_image fits covered
  wifiStrength _ := (byte_image fits wifiStrengthAt).symm
  slider3d covered := congrArg Binary.Single.mk (word_of_covers fits covered)
  selector covered := word_of_covers fits covered
  dateTime counted recorded := by
    have attempt := attempt_image fits counted recorded
    refine ⟨congrArg ReadAttempt.record attempt, fun fuel => ?_⟩
    induction fuel with
    | zero => rfl
    | succ fuel ih =>
        rw [readAttempts_succ, readAttempts_succ, attempt, ih]

/-! ## §5. Agreement. -/

/-- **A WINDOW AGREES WITH THE IMAGE OF ITS BYTES**: no access leaves the content, bytes
agree everywhere, words agree where the window shows them whole or not at all, what
straddles an edge reads as zero word by word, and registers that are covered read the
same. -/
theorem agrees_with_image (fits : window.Fits) :
    (∀ a width offset, window.offset? a width = some offset →
        offset + width ≤ window.content.size)
    ∧ (∀ a, window.bus.byte a = window.image.bus.byte a)
    ∧ (∀ a, window.Covers a 4 ∨ window.Misses a 4 →
        window.bus.word a = window.image.bus.word a)
    ∧ (∀ a, ¬window.Covers a 4 → window.bus.word a = 0)
    ∧ (∀ a, window.bus.double a = Bus.joinWords
        (if window.Covers a 4 then window.image.bus.word a else 0)
        (if window.Covers (a + 4) 4 then window.image.bus.word (a + 4) else 0))
    ∧ window.SameRegisters := by
  refine ⟨?_, ?_, ?_, ?_, ?_, sameRegisters fits⟩
  · intro a width offset granted
    exact offset?_inside granted
  · intro a
    exact (byte_image fits a).symm
  · intro a whole
    exact word_image fits whole
  · intro a straddling
    exact word_of_not_covers fits straddling
  · intro a
    have half (a : UInt32) :
        window.word a = if window.Covers a 4 then window.image.word a else 0 := by
      by_cases covered : window.Covers a 4
      · rw [if_pos covered, word_of_covers fits covered]
      · rw [if_neg covered, word_of_not_covers fits covered]
    show Bus.joinWords (window.word a) (window.word (a + 4)) = _
    rw [half a, half (a + 4)]
    rfl

/-- The sizes of the regions and no more: 64 MiB, 44 MiB and 20 MiB. -/
def sizesOnly : Window :=
  ⟨#[0, 0, 0, 4, 0, 0, 0xC0, 2, 0, 0, 0x40, 1], regionSizesAt⟩

theorem agrees_with_image_of_sizes_only :
    sizesOnly.Fits
    ∧ sizesOnly.bus.regionSize .all = sizesOnly.image.bus.regionSize .all
    ∧ sizesOnly.bus.word (regionSizesAt - 2) = 0
    ∧ sizesOnly.bus.double (regionSizesAt + 8)
        = Bus.joinWords (sizesOnly.image.bus.word (regionSizesAt + 8)) 0 := by
  have fits : sizesOnly.Fits := ⟨by decide, by decide⟩
  obtain ⟨-, -, -, straddling, double, registers⟩ := agrees_with_image fits
  have above : ¬sizesOnly.Covers (regionSizesAt + 8 + 4) 4 := by decide
  have covered : ∀ a ∈ MemRegion.all.sizeRegisters, sizesOnly.Covers a 4 := by
    intro a member
    simp only [MemRegion.sizeRegisters, List.mem_cons, List.not_mem_nil, or_false] at member
    rcases member with rfl | rfl | rfl <;> decide
  refine ⟨fits, registers.regionSize .all covered, straddling _ (by decide), ?_⟩
  rw [double, if_pos (by decide), if_neg above]

end Window

end Horizon
