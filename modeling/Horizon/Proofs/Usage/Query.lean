/-
  Horizon.Proofs.Usage.Query
  ──────────────────────────
  **ONE QUERY, ONE ROW.**

  The row of a region takes a single query, and nothing but the answer to it decides what
  the row shows as used and as free:

      answer                  used       free
      a word                  the word   size - word, modulo 2^32
      negative, or no word    0          size
      a failure               0          size

  This holds in any monad with the usual laws, that is whatever else a query brings about.
-/
import Mathlib.Algebra.Group.Int.Defs
import Mathlib.Algebra.Group.Nat.Defs
import Horizon.Usage

namespace Horizon

/-! ## §1. Answers. -/

namespace Supervisor

/-- The bytes in use that an answer stands for; an answer that is no word stands for none. -/
def counted (answer : Except ResultCode Int64) : UInt32 :=
  match usedAnswer answer with
  | .ok used => used
  | .error _ => 0

theorem counted_error (code : ResultCode) : counted (.error code) = 0 := rfl

/-- A number counts if it is a word, and then as it is. -/
theorem toInt_counted_ok (answer : Int64) :
    ((counted (.ok answer)).toNat : Int)
      = if 0 ≤ answer.toInt ∧ answer.toInt < 2 ^ 32 then answer.toInt else 0 := by
  unfold counted usedAnswer
  simp only [← Bool.decide_and, decide_eq_true_eq]
  by_cases word : 0 ≤ answer.toInt ∧ answer.toInt < 2 ^ 32
  · have small : answer.toInt.toNat < 2 ^ 32 := by omega
    have passed : 0 ≤ answer.toInt ∧ answer.toInt < 0x1_0000_0000 := word
    rw [if_pos word, if_pos passed]
    show ((UInt32.ofNat answer.toInt.toNat).toNat : Int) = _
    rw [UInt32.toNat_ofNat_of_lt' small, Int.toNat_of_nonneg word.1]
  · have refused : ¬(0 ≤ answer.toInt ∧ answer.toInt < 0x1_0000_0000) := word
    rw [if_neg word, if_neg refused]
    rfl

/-- A word that the kernel answers is taken as it is. -/
theorem counted_word (used : UInt32) : counted (.ok (Int64.ofNat used.toNat)) = used := by
  have small := used.toNat_lt
  have value : (Int64.ofNat used.toNat).toInt = used.toNat := Int64.toInt_ofNat_of_lt (by omega)
  have number := toInt_counted_ok (Int64.ofNat used.toNat)
  rw [value, if_pos (by omega)] at number
  exact UInt32.toNat_inj.mp (by omega)

end Supervisor

/-! ## §2. Rows. -/

/-- The row of a region of which so many bytes are in use. -/
def MemoryUsage.ofUsed (bus : Bus) (region : MemRegion) (used : UInt32) : MemoryUsage :=
  ⟨region, bus.regionSize region, used, bus.regionSize region - used⟩

/-- The row that an answer makes. -/
def MemoryUsage.ofAnswer (bus : Bus) (region : MemRegion) (answer : Except ResultCode Int64) :
    MemoryUsage :=
  .ofUsed bus region (Supervisor.counted answer)

/-- A row shows its region's size on the bus, and as used what the answer says if that is a
word. -/
structure MemoryUsage.Reflects (usage : MemoryUsage) (bus : Bus) (region : MemRegion)
    (answer : Except ResultCode Int64) : Prop where
  region_eq : usage.region = region
  size_eq : usage.size = bus.regionSize region
  used_of_word : ∀ number, answer = .ok number → 0 ≤ number.toInt → number.toInt < 2 ^ 32 →
    (usage.used.toNat : Int) = number.toInt
  used_of_no_word : ∀ number, answer = .ok number →
    number.toInt < 0 ∨ 2 ^ 32 ≤ number.toInt → usage.used = 0
  used_of_failure : ∀ code, answer = .error code → usage.used = 0
  free_eq : usage.free.toNat = (2 ^ 32 + usage.size.toNat - usage.used.toNat) % 2 ^ 32

theorem MemoryUsage.reflects_ofAnswer (bus : Bus) (region : MemRegion)
    (answer : Except ResultCode Int64) :
    (ofAnswer bus region answer).Reflects bus region answer where
  region_eq := rfl
  size_eq := rfl
  used_of_word := by
    rintro number rfl least small
    show ((Supervisor.counted (.ok number)).toNat : Int) = _
    rw [Supervisor.toInt_counted_ok, if_pos ⟨least, small⟩]
  used_of_no_word := by
    rintro number rfl outside
    show Supervisor.counted (.ok number) = 0
    have none := Supervisor.toInt_counted_ok number
    rw [if_neg (by omega)] at none
    exact UInt32.toNat_inj.mp (Int.ofNat_inj.mp none)
  used_of_failure := by
    rintro code rfl
    exact Supervisor.counted_error code
  free_eq := by
    show (_ - _ : UInt32).toNat = _
    rw [UInt32.toNat_sub]
    have := (Supervisor.counted answer).toNat_lt
    show _ = (2 ^ 32 + (bus.regionSize region).toNat - (Supervisor.counted answer).toNat) % 2 ^ 32
    congr 1
    omega

/-! ## §3. Queries. -/

section

variable {m : Type → Type} [Monad m] [LawfulMonad m] (bus : Bus) (supervisor : Supervisor m)

/-- The query for the bytes in use in a region. -/
def Supervisor.ask {m : Type → Type} (supervisor : Supervisor m) (region : MemRegion) :
    m (Except ResultCode Int64) :=
  supervisor.systemInfo memoryUsed region.raw.toInt32

theorem Supervisor.regionUsed_eq (region : MemRegion) :
    supervisor.regionUsed region = counted <$> supervisor.ask region := by
  rw [regionUsed, tryRegionUsed, bind_assoc, map_eq_pure_bind]
  refine congrArg (supervisor.ask region >>= ·) (funext fun answer => ?_)
  rw [pure_bind, counted]
  cases usedAnswer answer with
  | ok used => rfl
  | error fault => rfl

/-- **A row takes one query and shows the answer to it.** -/
theorem regionUsage_eq (region : MemRegion) :
    regionUsage bus supervisor region
      = MemoryUsage.ofAnswer bus region <$> supervisor.ask region := by
  rw [regionUsage, Supervisor.regionUsed_eq, bind_map_left, map_eq_pure_bind]
  rfl

/-- What is free takes one query as well, and is what the row shows. -/
theorem regionFree_eq (region : MemRegion) :
    regionFree bus supervisor region = MemoryUsage.free <$> regionUsage bus supervisor region := by
  rw [regionUsage_eq, regionFree, Supervisor.regionUsed_eq, bind_map_left, ← comp_map,
    map_eq_pure_bind]
  rfl

/-- A table takes one query a row, in order. -/
theorem mapM_regionUsage_eq (regions : List MemRegion) :
    regions.mapM (regionUsage bus supervisor)
      = List.zipWith (MemoryUsage.ofAnswer bus) regions <$> regions.mapM supervisor.ask := by
  induction regions with
  | nil => simp only [List.mapM_nil, map_pure, List.zipWith_nil_left]
  | cons region regions ih =>
      simp only [List.mapM_cons, regionUsage_eq, ih, map_eq_pure_bind, bind_assoc, pure_bind,
        List.zipWith_cons_cons]

end

end Horizon
