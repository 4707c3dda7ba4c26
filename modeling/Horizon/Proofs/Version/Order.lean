/-
  Horizon.Proofs.Version.Order
  ────────────────────────────
  **VERSIONS COMPARE LIKE THEIR COMPONENTS.**

  A packed word holds the components from the top down, so that two words compare by the
  first component in which they differ:

      major │ minor │ revision │ low byte

  The low byte comes last and would still tell words apart whose components are the same.
  In the registers it means nothing; it is cleared when they are read, and it is clear in
  every version that is made of components or read from a text.  So between versions from
  any of these sources it has no say:

      compare_eq              words compare like their components, then by the low byte
      Obtained.lowByteClear   versions from these sources have a clear low byte
-/
import Horizon.Proofs.Version.Canonical
import Horizon.Registers

namespace Horizon

namespace SystemVersion

/-! ## §1. Packed words and their components. -/

/-- Compare by major, then by minor, then by revision. -/
def compareComponents (v w : SystemVersion) : Ordering :=
  (compare v.major w.major).then
    ((compare v.minor w.minor).then (compare v.revision w.revision))

/-- A word is its three components and its low byte side by side. -/
theorem toNat_raw_eq (v : SystemVersion) :
    v.raw.toNat
      = 2 ^ 24 * v.major.toNat
        + (2 ^ 16 * v.minor.toNat + (2 ^ 8 * v.revision.toNat + v.raw.toNat % 2 ^ 8)) := by
  rw [toNat_major, toNat_minor, toNat_revision]
  omega

/-- **Words compare like their components**, and by the low byte if these are the same. -/
theorem compare_eq (v w : SystemVersion) :
    compare v w
      = (compareComponents v w).then (compare (v.raw.toNat % 2 ^ 8) (w.raw.toNat % 2 ^ 8)) := by
  have lowOf (u : SystemVersion) : u.raw.toNat % 2 ^ 8 < 2 ^ 8 := Nat.mod_lt _ (by decide)
  -- what lies below a component comes to less than one of its units
  have belowMinor (u : SystemVersion) :
      2 ^ 8 * u.revision.toNat + u.raw.toNat % 2 ^ 8 < 2 ^ 16 := by
    rw [toNat_revision]
    omega
  have belowMajor (u : SystemVersion) :
      2 ^ 16 * u.minor.toNat + (2 ^ 8 * u.revision.toNat + u.raw.toNat % 2 ^ 8) < 2 ^ 24 := by
    have := belowMinor u
    rw [toNat_minor]
    omega
  calc compare v w
    _ = compare v.raw.toNat w.raw.toNat := compare_toNat v.raw w.raw
    _ = (compare v.major.toNat w.major.toNat).then
          ((compare v.minor.toNat w.minor.toNat).then
            ((compare v.revision.toNat w.revision.toNat).then
              (compare (v.raw.toNat % 2 ^ 8) (w.raw.toNat % 2 ^ 8)))) := by
        rw [← compare_fields _ _ (lowOf v) (lowOf w),
          ← compare_fields _ _ (belowMinor v) (belowMinor w),
          ← compare_fields _ _ (belowMajor v) (belowMajor w), ← toNat_raw_eq, ← toNat_raw_eq]
    _ = _ := by
        simp only [compareComponents, compare_toNat, Ordering.then_assoc]

theorem compare_eq_of_lowByteClear {v w : SystemVersion} (hv : v.LowByteClear)
    (hw : w.LowByteClear) : compare v w = compareComponents v w := by
  have clearV : v.raw.toNat % 2 ^ 8 = 0 := lowByteClear_iff.mp hv
  have clearW : w.raw.toNat % 2 ^ 8 = 0 := lowByteClear_iff.mp hw
  rw [compare_eq, clearV, clearW]
  exact Ordering.then_eq

/-- Words with a low byte of their own compare by it where their texts are the same. -/
example : (⟨0x022E0001⟩ : SystemVersion).text = (⟨0x022E0000⟩ : SystemVersion).text
    ∧ compare (⟨0x022E0001⟩ : SystemVersion) ⟨0x022E0000⟩ = .gt := by decide

/-! ## §2. Where versions come from. -/

/-- A version that a register of some bus shows, that is made of components or that is read
from a text. -/
inductive Obtained : SystemVersion → Prop
  /-- From the kernel's register, whatever its low byte. -/
  | kernel (bus : Bus) : Obtained bus.kernel
  /-- From the firmware's register, whatever its low byte. -/
  | firm (bus : Bus) : Obtained bus.firm
  /-- From components. -/
  | parts (major minor revision : UInt8) : Obtained (ofParts major minor revision)
  /-- From a text. -/
  | text {input : String} {v : SystemVersion} (read : parse input = .ok v) : Obtained v

theorem Obtained.lowByteClear {v : SystemVersion} (obtained : Obtained v) : v.LowByteClear := by
  cases obtained with
  | kernel bus => exact lowByteClear_cleared ⟨bus.word Registers.kernelVersionAt⟩
  | firm bus => exact lowByteClear_cleared ⟨bus.word Registers.firmVersionAt⟩
  | parts major minor revision => exact lowByteClear_ofParts major minor revision
  | text read => exact lowByteClear_of_parse read

/-- Clearing the low byte leaves nothing that words differ in if their upper bytes agree. -/
theorem cleared_eq_of_upper {v w : SystemVersion}
    (upper : v.raw.toNat / 256 = w.raw.toNat / 256) : v.cleared = w.cleared := by
  refine congrArg SystemVersion.mk (UInt32.toNat_inj.mp ?_)
  show v.cleared.raw.toNat = w.cleared.raw.toNat
  rw [toNat_cleared, toNat_cleared, upper]

/-! ## §3. Comparisons. -/

/-- **VERSIONS COMPARE AS THEY ARE PRINTED.**  Whether they come from a register, from
components or from a text,

  · two versions compare like their components, from the major one down,
  · they are the same if and only if their texts are the same,
  · and the low byte of a register changes no comparison with what it shows. -/
theorem obtained_versions_compare_as_printed :
    (∀ v w : SystemVersion, Obtained v → Obtained w →
      compare v w = compareComponents v w ∧ (v = w ↔ v.text = w.text))
    ∧ ∀ (bus other : Bus) (w : SystemVersion),
      ((bus.word Registers.kernelVersionAt).toNat / 256
          = (other.word Registers.kernelVersionAt).toNat / 256 →
        compare bus.kernel w = compare other.kernel w
          ∧ compare w bus.kernel = compare w other.kernel)
      ∧ ((bus.word Registers.firmVersionAt).toNat / 256
          = (other.word Registers.firmVersionAt).toNat / 256 →
        compare bus.firm w = compare other.firm w
          ∧ compare w bus.firm = compare w other.firm) := by
  constructor
  · intro v w hv hw
    have compared := compare_eq_of_lowByteClear hv.lowByteClear hw.lowByteClear
    exact ⟨compared, congrArg text, fun same => text_injOn hv.lowByteClear hw.lowByteClear same⟩
  · intro bus other w
    refine ⟨fun upper => ?_, fun upper => ?_⟩
    · have same : bus.kernel = other.kernel := cleared_eq_of_upper upper
      rw [same]
      exact ⟨rfl, rfl⟩
    · have same : bus.firm = other.firm := cleared_eq_of_upper upper
      rw [same]
      exact ⟨rfl, rfl⟩

/-- A bus that shows one word at every address. -/
def uniformBus (word : UInt32) : Bus := ⟨fun _ => 0, fun _ => word⟩

/-- A kernel 2.46.0 with a low byte of 255 is no newer than the version 2.46.0 of a text, and
firmware 2.46.1 is newer, whatever its low byte. -/
theorem obtained_versions_compare_as_printed_despite_low_byte :
    let kernel := (uniformBus 0x022E00FF).kernel
    let firm := (uniformBus 0x022E0100).firm
    let read := ofParts 2 46 0
    (Obtained kernel ∧ Obtained read ∧ compare kernel read = compareComponents kernel read
      ∧ compare kernel read = .eq ∧ kernel = read)
    ∧ (parse "2.46.0" = .ok read ∧ Obtained firm ∧ compare firm read = .gt)
    ∧ (((uniformBus 0x022E00FF).word Registers.kernelVersionAt).toNat / 256
          = ((uniformBus 0x022E0007).word Registers.kernelVersionAt).toNat / 256
      ∧ compare kernel read = compare (uniformBus 0x022E0007).kernel read)
    ∧ (((uniformBus 0x022E0100).word Registers.firmVersionAt).toNat / 256
          = ((uniformBus 0x022E01A5).word Registers.firmVersionAt).toNat / 256
      ∧ compare firm read = compare (uniformBus 0x022E01A5).firm read) := by
  intro kernel firm read
  obtain ⟨printed, lowByte⟩ := obtained_versions_compare_as_printed
  have spelled : parse "2.46.0" = .ok read := by decide +kernel
  have ofKernel : Obtained kernel := .kernel _
  have ofFirm : Obtained firm := .firm _
  have ofText : Obtained read := .text spelled
  have kernelUpper : ((uniformBus 0x022E00FF).word Registers.kernelVersionAt).toNat / 256
      = ((uniformBus 0x022E0007).word Registers.kernelVersionAt).toNat / 256 := by decide
  have firmUpper : ((uniformBus 0x022E0100).word Registers.firmVersionAt).toNat / 256
      = ((uniformBus 0x022E01A5).word Registers.firmVersionAt).toNat / 256 := by decide
  have compared := (printed kernel read ofKernel ofText).1
  have newer := (printed firm read ofFirm ofText).1
  refine ⟨⟨ofKernel, ofText, compared, compared.trans (by decide), ?_⟩,
    ⟨spelled, ofFirm, newer.trans (by decide)⟩, ⟨kernelUpper, ?_⟩, firmUpper, ?_⟩
  · exact (printed kernel read ofKernel ofText).2.mpr (by decide)
  · exact ((lowByte _ _ read).1 kernelUpper).1
  · exact ((lowByte _ _ read).2 firmUpper).1

end SystemVersion

end Horizon
