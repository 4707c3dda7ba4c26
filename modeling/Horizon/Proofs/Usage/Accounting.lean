/-
  Horizon.Proofs.Usage.Accounting
  ───────────────────────────────
  **WHAT THE MEMORY TABLE OF A CONSOLE ADDS UP TO.**

  Sizes come from the register pages and use from queries, and both are added up for all
  regions together in word arithmetic.  Accepted settings keep the use of each region
  within its size, so that the row of each region is balanced:

      used ≤ size        free = size - used

  For the row of all regions this is not enough, since the sum of the sizes may pass the
  end of a word.  That is the only thing that can go wrong:

      accounts_iff_sizes_fit      the table adds up exactly if and only if the sizes do
      overcommitted               settings that are accepted and whose sizes do not
-/
import Horizon.Proofs.Console.Pages
import Horizon.Proofs.Console.Queries
import Horizon.Proofs.Document.Carry

namespace Horizon

/-! ## §1. Balance. -/

/-- The use is no more than the size, and what is free is the rest. -/
structure MemoryUsage.Balanced (usage : MemoryUsage) : Prop where
  used_le : usage.used.toNat ≤ usage.size.toNat
  free_eq : usage.free.toNat = usage.size.toNat - usage.used.toNat

/-! ## §2. The memory table of settings. -/

namespace SimulationConfig

/-- The row of a region for the console of the settings. -/
def row (c : SimulationConfig) (region : MemRegion) : MemoryUsage :=
  ((regionUsage (Image.ofConfig c).bus Console.supervisor region).run (Console.ofConfig c)).1

/-- The table of the settings adds up: every row is balanced, and the row of all regions
is the exact sum of the other three in each of its columns. -/
structure Accounts (c : SimulationConfig) : Prop where
  balanced : ∀ region, (c.row region).Balanced
  size : (c.row .all).size.toNat = MemRegion.total fun region => (c.row region).size
  used : (c.row .all).used.toNat = MemRegion.total fun region => (c.row region).used
  free : (c.row .all).free.toNat = MemRegion.total fun region => (c.row region).free

theorem row_eq (c : SimulationConfig) (region : MemRegion) :
    c.row region = ⟨region, c.regionSizes.count region, c.regionUsed.count region,
      c.regionSizes.count region - c.regionUsed.count region⟩ := by
  have fresh : (Console.ofConfig c).failure = none := rfl
  have size : (Image.ofConfig c).bus.regionSize region = c.regionSizes.count region :=
    congrArg (RegionBytes.count · region) (Image.regionSizes_ofConfig c)
  rw [row, Console.regionUsage_supervisor fresh]
  show (⟨region, (Image.ofConfig c).bus.regionSize region, _, _ - _⟩ : MemoryUsage) = _
  rw [size]
  rfl

theorem balanced_row {c : SimulationConfig} {region : MemRegion}
    (h : (c.regionUsed.count region).toNat ≤ (c.regionSizes.count region).toNat) :
    (c.row region).Balanced := by
  rw [row_eq]
  exact ⟨h, UInt32.toNat_sub_of_le _ _ (UInt32.le_iff_toNat_le.mpr h)⟩

/-- A report shows these rows, whatever the model. -/
theorem memory_collect (c : SimulationConfig) (model : ConsoleModel) :
    ((SystemReport.collect model (Image.ofConfig c).bus Console.supervisor).run
      (Console.ofConfig c)).1.memory = MemRegion.overview.map c.row := by
  have fresh : (Console.ofConfig c).failure = none := rfl
  rw [Console.collect_supervisor fresh]
  refine List.map_congr_left fun region _ => ?_
  rw [row, Console.regionUsage_supervisor fresh]

/-! ## §3. Accepted settings. -/

theorem le_of_checkUsed {what : String} {used size : UInt32}
    (h : checkUsed what used size = .ok ()) : used ≤ size := by
  unfold checkUsed at h
  split at h
  · cases h
  · rename_i fits
    exact UInt32.not_lt.mp fits

/-- Accepted settings keep the use of each region within its size. -/
theorem used_le_size {c : SimulationConfig} (h : c.validate = .ok ()) :
    ∀ region ∈ MemRegion.concrete,
      (c.regionUsed.count region).toNat ≤ (c.regionSizes.count region).toNat := by
  -- the three checks come after those of the wireless signal and of the slider
  have checks : c.regionUsed.application ≤ c.regionSizes.application ∧
      c.regionUsed.system ≤ c.regionSizes.system ∧ c.regionUsed.base ≤ c.regionSizes.base := by
    unfold validate at h
    dsimp only at h
    split at h
    · cases h
    · split at h
      · cases h
      · obtain ⟨_, application, h⟩ := Except.bind_eq_ok.mp h
        obtain ⟨_, system, base⟩ := Except.bind_eq_ok.mp h
        exact ⟨le_of_checkUsed application, le_of_checkUsed system, le_of_checkUsed base⟩
  intro region hr
  cases region with
  | all => exact absurd hr (by decide)
  | application => exact UInt32.le_iff_toNat_le.mp checks.1
  | system => exact UInt32.le_iff_toNat_le.mp checks.2.1
  | base => exact UInt32.le_iff_toNat_le.mp checks.2.2

/-- If the sizes fit in a word, nothing is lost in adding up. -/
theorem accounts_of_sizes_fit {c : SimulationConfig} (h : c.validate = .ok ())
    (fits : MemRegion.total c.regionSizes.count < 2 ^ 32) : c.Accounts := by
  have used := used_le_size h
  have application := used .application (by decide)
  have system := used .system (by decide)
  have base := used .base (by decide)
  have sizes : (c.regionSizes.count .all).toNat = MemRegion.total c.regionSizes.count := by
    rw [RegionBytes.toNat_count_all, Nat.mod_eq_of_lt fits]
  -- the uses fit because the sizes do
  have within : MemRegion.total c.regionUsed.count ≤ MemRegion.total c.regionSizes.count := by
    unfold MemRegion.total
    omega
  have uses : (c.regionUsed.count .all).toNat = MemRegion.total c.regionUsed.count := by
    rw [RegionBytes.toNat_count_all, Nat.mod_eq_of_lt (by omega)]
  have all : (c.regionUsed.count .all).toNat ≤ (c.regionSizes.count .all).toNat := by
    rw [sizes, uses]
    exact within
  have balanced : ∀ region, (c.row region).Balanced := by
    intro region
    cases region with
    | all => exact balanced_row all
    | application => exact balanced_row application
    | system => exact balanced_row system
    | base => exact balanced_row base
  refine ⟨balanced, ?_, ?_, ?_⟩
  · simp only [row_eq]
    exact sizes
  · simp only [row_eq]
    exact uses
  · -- what is free is the difference of two columns that add up
    unfold MemRegion.total
    rw [(balanced .all).free_eq, (balanced .application).free_eq, (balanced .system).free_eq,
      (balanced .base).free_eq]
    simp only [row_eq, sizes, uses]
    unfold MemRegion.total
    omega

/-- **THE MEMORY TABLE OF ACCEPTED SETTINGS**: the rows of the three regions are balanced,
and the whole table adds up exactly if and only if the three sizes together fit in a
word. -/
theorem accounts_iff_sizes_fit {c : SimulationConfig} (h : c.validate = .ok ()) :
    (∀ model, ((SystemReport.collect model (Image.ofConfig c).bus Console.supervisor).run
        (Console.ofConfig c)).1.memory = MemRegion.overview.map c.row)
    ∧ (∀ region ∈ MemRegion.concrete, (c.row region).Balanced)
    ∧ (c.Accounts ↔ MemRegion.total c.regionSizes.count < 2 ^ 32) := by
  refine ⟨memory_collect c, ?_, ?_, accounts_of_sizes_fit h⟩
  · intro region hr
    exact balanced_row (used_le_size h region hr)
  · -- a column that adds up is a word, and so is the sum then
    intro accounts
    have size := accounts.size
    simp only [row_eq] at size
    show MemRegion.total c.regionSizes.count < 2 ^ 32
    have word := (c.regionSizes.count .all).toNat_lt
    rw [size] at word
    exact word

/-- Sizes that fill a word to the last byte, all of it in use. -/
def brimful : SimulationConfig :=
  { regionSizes := ⟨0xFFFFFFF0, 0xE, 1⟩, regionUsed := ⟨0xFFFFFFF0, 0xE, 1⟩ }

theorem accounts_iff_sizes_fit_of_brimful :
    brimful.validate = .ok () ∧ MemRegion.total brimful.regionSizes.count = 2 ^ 32 - 1 ∧
      brimful.Accounts := by
  have accepted : brimful.validate = .ok () := rfl
  have sum : MemRegion.total brimful.regionSizes.count = 2 ^ 32 - 1 := by decide
  exact ⟨accepted, sum, (accounts_iff_sizes_fit accepted).2.2.mpr (by omega)⟩

/-- Two regions of 2 GiB each, with one byte of the first in use. -/
def overcommitted : SimulationConfig :=
  { regionSizes := ⟨0x80000000, 0x80000000, 0⟩, regionUsed := ⟨1, 0, 0⟩ }

/-- Accepted settings whose table does not add up: all regions together have size 0, one
byte of it in use and all but one byte of a word free. -/
theorem not_accounts_overcommitted :
    overcommitted.validate = .ok ()
    ∧ overcommitted.row .all = ⟨.all, 0, 1, 0xFFFFFFFF⟩
    ∧ ¬(overcommitted.row .all).Balanced
    ∧ ¬overcommitted.Accounts := by
  have shown : overcommitted.row .all = ⟨.all, 0, 1, 0xFFFFFFFF⟩ := by
    rw [row_eq]
    decide
  have unbalanced : ¬(overcommitted.row .all).Balanced := by
    intro balanced
    have used := balanced.used_le
    rw [shown] at used
    exact absurd used (by decide)
  exact ⟨rfl, shown, unbalanced, fun accounts => unbalanced (accounts.balanced .all)⟩

end SimulationConfig

end Horizon
