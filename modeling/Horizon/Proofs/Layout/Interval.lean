/-
  Horizon.Proofs.Layout.Interval
  ──────────────────────────────
  **A MAPPING OF ANY SHAPE MOVES AN INTERVAL.**

  That an address lies in a mapping is decided on 32 bits, from its offset alone; where the
  mapping ends is a sum on 64 bits.  The two agree whatever the mapping is, also for one that
  is empty or whose virtual run ends past the address space:

      32 bits   vaddr ≤ v and v - vaddr < size
      64 bits   vaddr ≤ v < vend

  If the physical run is within 32 bits, no step of a translation leaves them.  Offsets are
  kept, so addresses stay in order, and what is reached is an interval again:

      virtual    vaddr ───── min vend 2^32
      physical   paddr ───── paddr + reach
-/
import Horizon.Proofs.Layout.Translation

namespace Horizon

/-! ## §1. Checked steps. -/

namespace Word

/-- The difference of two words, if it is not below zero. -/
def sub? (a b : UInt32) : Option UInt32 :=
  if b.toNat ≤ a.toNat then some (a - b) else none

/-- The sum of two words, if it fits one. -/
def add? (a b : UInt32) : Option UInt32 :=
  if a.toNat + b.toNat < 2 ^ 32 then some (a + b) else none

end Word

namespace MappedRegion

/-- The address lies in the region, by checked steps on 32 bits. -/
def checkedContains? (r : MappedRegion) (address : UInt32) : Option Bool :=
  if r.vaddr ≤ address then
    (Word.sub? address r.vaddr).map fun offset => decide (offset < r.size)
  else some false

/-- The physical address behind an address of the region, by checked steps on 32 bits. -/
def checkedPhysical? (r : MappedRegion) (address : UInt32) : Option (Option UInt32) := do
  if ← r.checkedContains? address then
    let offset ← Word.sub? address r.vaddr
    let physical ← Word.add? offset r.paddr
    return some physical
  else
    return none

variable (r : MappedRegion) {v w : UInt32}

/-- 64 bits hold the end of any virtual run. -/
theorem toNat_vaddr_add_size : (r.vaddr.toUInt64 + r.size.toUInt64).toNat = r.vend := by
  have start := r.vaddr.toNat_lt
  have length := r.size.toNat_lt
  rw [UInt64.toNat_add, UInt32.toNat_toUInt64, UInt32.toNat_toUInt64]
  exact Nat.mod_eq_of_lt (by omega)

/-- The offset is only taken where it is not below zero. -/
theorem checkedContains?_eq (v : UInt32) : r.checkedContains? v = some (r.contains v) := by
  unfold checkedContains? contains
  by_cases above : r.vaddr ≤ v
  · have start : r.vaddr.toNat ≤ v.toNat := UInt32.le_iff_toNat_le.mp above
    rw [if_pos above, Word.sub?, if_pos start, decide_eq_true above, Bool.true_and]
    rfl
  · rw [if_neg above, decide_eq_false above, Bool.false_and]

theorem physical?_eq_none_iff : r.physical? v = none ↔ r.contains v = false := by
  unfold physical?
  cases r.contains v with
  | false => simp
  | true => simp

/-- **The steps of a translation fail** only where the last sum does not fit a word. -/
theorem checkedPhysical?_eq (v : UInt32) :
    r.checkedPhysical? v
      = if r.contains v = true ∧ 2 ^ 32 ≤ v.toNat - r.vaddr.toNat + r.paddr.toNat then none
        else some (r.physical? v) := by
  unfold checkedPhysical? physical?
  rw [checkedContains?_eq, Option.bind_eq_bind, Option.bind_some]
  by_cases inside : r.contains v = true
  · have start : r.vaddr.toNat ≤ v.toNat := (contains_iff.mp inside).1
    have offset : (v - r.vaddr).toNat = v.toNat - r.vaddr.toNat :=
      UInt32.toNat_sub_of_le _ _ (UInt32.le_iff_toNat_le.mpr start)
    rw [if_pos inside, if_pos inside, Word.sub?, if_pos start, Option.bind_eq_bind,
      Option.bind_some, Word.add?, offset]
    by_cases fits : v.toNat - r.vaddr.toNat + r.paddr.toNat < 2 ^ 32
    · rw [if_pos fits, if_neg (by omega)]
      rfl
    · rw [if_neg fits, if_pos ⟨inside, by omega⟩]
      rfl
  · rw [if_neg inside, if_neg inside, if_neg fun both => inside both.1]
    rfl

/-- The second byte of a mapping whose physical run leaves 32 bits behind the first. -/
example : (⟨"edge", 0x1000, 0xFFFFFFFF, 2⟩ : MappedRegion).checkedPhysical? 0x1001 = none := by
  decide

/-- Failing or not, there is no translation just for addresses outside. -/
theorem checkedPhysical?_eq_some_none_iff :
    r.checkedPhysical? v = some none ↔ r.contains v = false := by
  rw [checkedPhysical?_eq]
  split
  next failed => simp [failed.1]
  next => rw [Option.some.injEq, physical?_eq_none_iff]

/-! ## §2. Mappings within 32 bits. -/

/-- The number of bytes that have a virtual address; those past the address space have
none. -/
def reach : Nat :=
  min r.vend (2 ^ 32) - r.vaddr.toNat

section

variable {r} (fits : r.pend ≤ 2 ^ 32)
include fits

/-- **Nothing overflows** if the physical run is within 32 bits. -/
theorem checkedPhysical?_of_fits (v : UInt32) :
    r.checkedPhysical? v = some (r.physical? v) := by
  rw [checkedPhysical?_eq, if_neg]
  rintro ⟨inside, large⟩
  obtain ⟨above, below⟩ := contains_iff.mp inside
  unfold vend at below
  unfold pend at fits
  omega

/-- **Addresses stay in order.** -/
theorem physical?_lt_iff {p q : UInt32} (hv : r.physical? v = some p)
    (hw : r.physical? w = some q) : p < q ↔ v < w := by
  obtain ⟨insidev, offv⟩ := (physical?_eq_some_iff fits).mp hv
  obtain ⟨insidew, offw⟩ := (physical?_eq_some_iff fits).mp hw
  have startv := (contains_iff.mp insidev).1
  have startw := (contains_iff.mp insidew).1
  rw [UInt32.lt_iff_toNat_lt, UInt32.lt_iff_toNat_lt]
  omega

/-- **What is reached is an interval**, from the physical address on. -/
theorem exists_physical?_eq_some_iff {p : UInt32} :
    (∃ v, r.physical? v = some p)
      ↔ r.paddr.toNat ≤ p.toNat ∧ p.toNat < r.paddr.toNat + r.reach := by
  unfold reach
  constructor
  · rintro ⟨v, hv⟩
    obtain ⟨inside, offset⟩ := (physical?_eq_some_iff fits).mp hv
    obtain ⟨above, below⟩ := contains_iff.mp inside
    have small := v.toNat_lt
    omega
  · rintro ⟨above, below⟩
    -- the address at the same offset has it behind it
    have small : r.vaddr.toNat + (p.toNat - r.paddr.toNat) < 2 ^ 32 := by omega
    obtain ⟨v, offset⟩ : ∃ v : UInt32, v.toNat = r.vaddr.toNat + (p.toNat - r.paddr.toNat) :=
      ⟨.ofNat _, UInt32.toNat_ofNat_of_lt' small⟩
    have inside : r.contains v = true := contains_iff.mpr (by omega)
    exact ⟨v, (physical?_eq_some_iff fits).mpr ⟨inside, by omega⟩⟩

end

/-! ## §3. Mappings of any shape. -/

/-- **A MAPPING OF ANY SHAPE MOVES AN INTERVAL.**

  · Whether an address lies in it is the same question on 32 bits and on 64, on either of
    which no step overflows; and just the addresses in it are translated.
  · If its physical run is within 32 bits, as it is for every mapping of the table, no step of
    a translation overflows, offsets are kept and addresses stay in order.
  · If its virtual run is within 32 bits as well, the addresses that are reached are those of
    its physical run. -/
theorem moves_interval (r : MappedRegion) :
    (r.vaddr.toUInt64 + r.size.toUInt64).toNat = r.vend
    ∧ (∀ v, r.checkedContains? v = some (r.contains v))
    ∧ (∀ v, r.contains v = true ↔ r.vaddr.toNat ≤ v.toNat ∧ v.toNat < r.vend)
    ∧ (∀ v, r.physical? v = none ↔ r.contains v = false)
    ∧ (∀ v, r.checkedPhysical? v = some none ↔ r.contains v = false)
    ∧ (r ∈ all → r.pend ≤ 2 ^ 32)
    ∧ (r.pend ≤ 2 ^ 32 →
        (∀ v, r.checkedPhysical? v = some (r.physical? v))
        ∧ (∀ v p, r.physical? v = some p ↔ r.contains v = true
            ∧ p.toNat = r.paddr.toNat + (v.toNat - r.vaddr.toNat))
        ∧ (∀ v w p q, r.physical? v = some p → r.physical? w = some q → (p < q ↔ v < w))
        ∧ (r.vend ≤ 2 ^ 32 → ∀ p, (∃ v, r.physical? v = some p)
            ↔ r.paddr.toNat ≤ p.toNat ∧ p.toNat < r.pend)) := by
  refine ⟨r.toNat_vaddr_add_size, r.checkedContains?_eq, fun v => contains_iff,
    fun v => r.physical?_eq_none_iff, fun v => r.checkedPhysical?_eq_some_none_iff,
    fun member => (all_fit r member).2, fun fits => ?_⟩
  refine ⟨checkedPhysical?_of_fits fits, fun v p => ?_,
    fun v w p q => physical?_lt_iff fits, fun ends p => ?_⟩
  · rw [physical?_eq_some_iff fits, Nat.add_comm r.paddr.toNat]
  · have whole : r.paddr.toNat + r.reach = r.pend := by
      unfold reach pend
      unfold vend at ends ⊢
      omega
    rw [exists_physical?_eq_some_iff fits, whole]

/-- The ends of a mapping whose virtual run is the last page of the address space, and a
mapping of the table. -/
theorem moves_interval_at_the_top :
    let top : MappedRegion := ⟨"top", 0xFFFFF000, 0x10, 0x1000⟩
    (fcram ∈ all ∧ fcram.pend ≤ 2 ^ 32)
    ∧ top.pend ≤ 2 ^ 32
    ∧ top.checkedPhysical? 0xFFFFFFFF = some (top.physical? 0xFFFFFFFF)
    ∧ (top.physical? 0xFFFFF000 = some 0x10 ∧ top.physical? 0xFFFFFFFF = some 0x100F
      ∧ ((0x10 : UInt32) < 0x100F ↔ (0xFFFFF000 : UInt32) < 0xFFFFFFFF))
    ∧ (top.vend ≤ 2 ^ 32
      ∧ ((∃ v, top.physical? v = some 0x100F)
        ↔ top.paddr.toNat ≤ (0x100F : UInt32).toNat ∧ (0x100F : UInt32).toNat < top.pend)) := by
  intro top
  have member : fcram ∈ all := by decide
  have fits : top.pend ≤ 2 ^ 32 := by decide
  have ends : top.vend ≤ 2 ^ 32 := by decide
  have first : top.physical? 0xFFFFF000 = some 0x10 := by decide
  have last : top.physical? 0xFFFFFFFF = some 0x100F := by decide
  obtain ⟨-, -, -, -, -, table, -⟩ := moves_interval fcram
  obtain ⟨-, -, -, -, -, -, within⟩ := moves_interval top
  obtain ⟨checked, -, order, image⟩ := within fits
  exact ⟨⟨member, table member⟩, fits, checked _, ⟨first, last, order _ _ _ _ first last⟩,
    ends, image ends _⟩

end MappedRegion

end Horizon
