/-
  Horizon.Proofs.Layout.Translation
  ─────────────────────────────────
  **WHICH ADDRESSES SHARE MEMORY.**

  A mapping lays a run of virtual addresses over a run of physical ones, and all of it is
  within 32 bits:

      vaddr ≤ v < vend      paddr ≤ p < pend      p - paddr = v - vaddr

  The virtual runs of the table are apart, so an address lies in one of them at most and
  the order of the table does not matter.  The physical runs are apart as well, except for
  those of the two linear mappings, which begin at one physical address.  So two addresses
  share memory only if they are equal or both linear, and then the mapping of newer systems
  has one address for the two of them.
-/
import Mathlib.Algebra.Group.Nat.Defs
import Mathlib.Data.List.Pairwise
import Horizon.Layout

namespace Horizon

namespace MappedRegion

/-! ## §1. One mapping. -/

/-- One past the last physical address; this may exceed 32 bits. -/
def pend (r : MappedRegion) : Nat :=
  r.paddr.toNat + r.size.toNat

theorem contains_iff {r : MappedRegion} {address : UInt32} :
    r.contains address = true ↔
      r.vaddr.toNat ≤ address.toNat ∧ address.toNat < r.vend := by
  unfold contains vend
  rw [Bool.and_eq_true, decide_eq_true_iff, decide_eq_true_iff, UInt32.le_iff_toNat_le,
    UInt32.lt_iff_toNat_lt]
  refine and_congr_right fun above => ?_
  rw [UInt32.toNat_sub_of_le _ _ (UInt32.le_iff_toNat_le.mpr above)]
  omega

/-- Translation keeps the offset, and nothing overflows if the physical run is within 32
bits. -/
theorem physical?_eq_some_iff {r : MappedRegion} (fits : r.pend ≤ 2 ^ 32)
    {address physical : UInt32} :
    r.physical? address = some physical ↔ r.contains address = true ∧
      physical.toNat = address.toNat - r.vaddr.toNat + r.paddr.toNat := by
  unfold physical?
  rw [Option.ite_none_right_eq_some, Option.some.injEq]
  refine and_congr_right fun inside => ?_
  obtain ⟨above, below⟩ := contains_iff.mp inside
  have sum : (address - r.vaddr + r.paddr).toNat
      = address.toNat - r.vaddr.toNat + r.paddr.toNat := by
    unfold pend at fits
    unfold vend at below
    rw [UInt32.toNat_add, UInt32.toNat_sub_of_le _ _ (UInt32.le_iff_toNat_le.mpr above)]
    exact Nat.mod_eq_of_lt (by omega)
  rw [← sum, UInt32.toNat_inj]
  exact eq_comm

/-! ## §2. Tables of mappings. -/

/-- The virtual runs do not meet. -/
def Apart (a b : MappedRegion) : Prop :=
  a.vend ≤ b.vaddr.toNat ∨ b.vend ≤ a.vaddr.toNat

instance (a b : MappedRegion) : Decidable (a.Apart b) :=
  inferInstanceAs (Decidable (_ ∨ _))

/-- The physical runs do not meet. -/
def BackedApart (a b : MappedRegion) : Prop :=
  a.pend ≤ b.paddr.toNat ∨ b.pend ≤ a.paddr.toNat

instance (a b : MappedRegion) : Decidable (a.BackedApart b) :=
  inferInstanceAs (Decidable (_ ∨ _))

instance : Std.Symm Apart where
  symm _ _ := Or.symm

theorem Apart.not_contains {a b : MappedRegion} (h : a.Apart b) {address : UInt32}
    (inside : a.contains address = true) : ¬b.contains address = true := by
  intro both
  obtain ⟨above, below⟩ := contains_iff.mp inside
  obtain ⟨above', below'⟩ := contains_iff.mp both
  rcases h with h | h
  · omega
  · omega

theorem of_find?_contains_eq_some {table : List MappedRegion} {address : UInt32}
    {r : MappedRegion} (found : table.find? (·.contains address) = some r) :
    r ∈ table ∧ r.contains address = true :=
  ⟨List.mem_of_find?_eq_some found, List.find?_some (p := (contains · address)) found⟩

section

variable {table : List MappedRegion} (apart : table.Pairwise Apart)
include apart

/-- An address lies in one mapping of the table at most. -/
theorem countP_contains_le_one (address : UInt32) :
    table.countP (·.contains address) ≤ 1 := by
  induction table with
  | nil => exact Nat.zero_le 1
  | cons r rest ih =>
      obtain ⟨others, apart⟩ := List.pairwise_cons.mp apart
      by_cases inside : r.contains address = true
      · -- then it lies in none of the others
        have none : rest.countP (·.contains address) = 0 := by
          rw [List.countP_eq_zero]
          intro s hs
          exact (others s hs).not_contains inside
        have one : (r :: rest).countP (·.contains address) = 1 := by
          rw [List.countP_cons, none, if_pos inside]
        exact Nat.le_of_eq one
      · rw [List.countP_cons, if_neg inside]
        exact ih apart

/-- What is found in the table is the one mapping that holds the address. -/
theorem find?_contains_eq_some_iff {address : UInt32} {r : MappedRegion} :
    table.find? (·.contains address) = some r ↔ r ∈ table ∧ r.contains address = true := by
  constructor
  · exact of_find?_contains_eq_some
  · rintro ⟨member, inside⟩
    cases found : table.find? (·.contains address) with
    | none => exact absurd inside (List.find?_eq_none.mp found r member)
    | some s =>
        by_cases same : s = r
        · rw [same]
        · obtain ⟨other, inside'⟩ := of_find?_contains_eq_some found
          have hapart : s.Apart r := apart.forall other member same
          exact absurd inside (hapart.not_contains inside')

/-- The order of the table does not matter. -/
theorem find?_contains_eq_of_perm {other : List MappedRegion} (perm : other.Perm table)
    (address : UInt32) :
    other.find? (·.contains address) = table.find? (·.contains address) := by
  have apart' : other.Pairwise Apart := (perm.pairwise_iff Or.symm).mpr apart
  ext r
  rw [find?_contains_eq_some_iff apart', find?_contains_eq_some_iff apart, perm.mem_iff]

end

/-! ## §3. The table. -/

/-- The mapping is one of the two linear ones. -/
def Linear (r : MappedRegion) : Prop :=
  r = oldFcram ∨ r = fcram

instance (r : MappedRegion) : Decidable r.Linear :=
  inferInstanceAs (Decidable (_ ∨ _))

theorem all_apart : all.Pairwise Apart := by decide

theorem all_fit : ∀ r ∈ all, r.vend ≤ 2 ^ 32 ∧ r.pend ≤ 2 ^ 32 := by decide

/-- Only the linear mappings share physical memory. -/
theorem all_backedApart :
    ∀ r ∈ all, ∀ s ∈ all, r = s ∨ r.BackedApart s ∨ r.Linear ∧ s.Linear := by decide

theorem Linear.mem_all {r : MappedRegion} (h : r.Linear) : r ∈ all := by
  rcases h with rfl | rfl
  · decide
  · decide

/-- The linear mappings begin at one physical address. -/
theorem Linear.paddr_eq {r : MappedRegion} (h : r.Linear) : r.paddr = fcram.paddr := by
  rcases h with rfl | rfl
  · rfl
  · rfl

/-- The linear mapping of newer systems reaches as far as that of older ones. -/
theorem Linear.size_le {r : MappedRegion} (h : r.Linear) :
    r.size.toNat ≤ fcram.size.toNat := by
  rcases h with rfl | rfl
  · decide
  · exact Nat.le_refl _

end MappedRegion

open MappedRegion

/-! ## §4. Looking up addresses. -/

variable {v w : UInt32}

theorem mappingOf_eq_some_iff {r : MappedRegion} :
    mappingOf v = some r ↔ r ∈ all ∧ r.contains v = true :=
  find?_contains_eq_some_iff all_apart

/-- The physical address keeps the offset in the mapping that holds the address. -/
theorem physicalOf?_eq_some_iff_of_mappingOf {r : MappedRegion} (found : mappingOf v = some r)
    {p : UInt32} :
    physicalOf? v = some p ↔ p.toNat = v.toNat - r.vaddr.toNat + r.paddr.toNat := by
  obtain ⟨member, inside⟩ := mappingOf_eq_some_iff.mp found
  unfold physicalOf?
  rw [found, Option.bind_some, physical?_eq_some_iff (all_fit r member).2]
  exact and_iff_right inside

theorem physicalOf?_eq_some_iff {p : UInt32} :
    physicalOf? v = some p ↔ ∃ r, mappingOf v = some r ∧
      p.toNat = v.toNat - r.vaddr.toNat + r.paddr.toNat := by
  constructor
  · intro h
    obtain ⟨r, found, -⟩ := Option.bind_eq_some_iff.mp h
    exact ⟨r, found, (physicalOf?_eq_some_iff_of_mappingOf found).mp h⟩
  · rintro ⟨r, found, offset⟩
    exact (physicalOf?_eq_some_iff_of_mappingOf found).mpr offset

/-- Every address of the table is translated. -/
theorem isSome_physicalOf? : (physicalOf? v).isSome = (mappingOf v).isSome := by
  unfold physicalOf?
  cases found : mappingOf v with
  | none => rfl
  | some r =>
      have inside := (mappingOf_eq_some_iff.mp found).2
      show (r.physical? v).isSome = true
      rw [physical?, if_pos inside]
      rfl

theorem physicalOf_eq_ok_iff {p : UInt32} : physicalOf v = .ok p ↔ physicalOf? v = some p := by
  unfold physicalOf
  cases physicalOf? v with
  | none => simp
  | some q => simp

theorem physicalOf_eq_error_iff {fault : Fault} :
    physicalOf v = .error fault ↔ mappingOf v = none ∧ fault = .unmapped v := by
  have unmapped : mappingOf v = none ↔ physicalOf? v = none := by
    rw [← Option.not_isSome_iff_eq_none, ← Option.not_isSome_iff_eq_none, isSome_physicalOf?]
  rw [unmapped]
  unfold physicalOf
  cases physicalOf? v with
  | none => simp [eq_comm]
  | some q => simp

/-- Heap and map area are not in the table. -/
theorem mappingOf_of_scattered
    (h : heapBegin ≤ v ∧ v < heapEnd ∨ mapBegin ≤ v ∧ v < mapEnd) : mappingOf v = none := by
  have above : ∀ r ∈ all, mapEnd.toNat ≤ r.vaddr.toNat := by decide
  have below : v.toNat < mapEnd.toNat := by
    rcases h with ⟨-, h⟩ | ⟨-, h⟩
    · exact Nat.lt_of_lt_of_le (UInt32.lt_iff_toNat_lt.mp h) (by decide)
    · exact UInt32.lt_iff_toNat_lt.mp h
  refine List.find?_eq_none.mpr fun r member inside => ?_
  have start := (contains_iff.mp inside).1
  have := above r member
  omega

/-! ## §5. Linear addresses. -/

/-- An address of either linear mapping keeps its offset in that of newer systems. -/
theorem exists_linearOf?_of_linear {r : MappedRegion} (kind : r.Linear)
    (inside : r.contains v = true) :
    ∃ n, linearOf? v = some n ∧ n.toNat = v.toNat - r.vaddr.toNat + fcram.vaddr.toNat := by
  obtain ⟨above, below⟩ := contains_iff.mp inside
  unfold linearOf?
  rcases kind with rfl | rfl
  · -- an address of the older mapping is moved, which does not take it past 32 bits
    have apart : oldFcram.Apart fcram := by decide
    have old : oldFcram.vaddr.toNat = 0x14000000 ∧ oldFcram.vend = 0x1C000000 := by decide
    have new : fcram.vaddr.toNat = 0x30000000 := by decide
    rw [if_neg (apart.not_contains inside), if_pos inside]
    refine ⟨_, rfl, ?_⟩
    rw [UInt32.toNat_add, UInt32.toNat_sub_of_le _ _ (UInt32.le_iff_toNat_le.mpr above)]
    exact Nat.mod_eq_of_lt (by omega)
  · rw [if_pos inside]
    exact ⟨v, rfl, by omega⟩

/-- No other address has a linear one. -/
theorem exists_linear_of_linearOf? {n : UInt32} (h : linearOf? v = some n) :
    ∃ r : MappedRegion, r.Linear ∧ r.contains v = true := by
  unfold linearOf? at h
  by_cases new : fcram.contains v = true
  · exact ⟨fcram, Or.inr rfl, new⟩
  · rw [if_neg new] at h
    by_cases old : oldFcram.contains v = true
    · exact ⟨oldFcram, Or.inl rfl, old⟩
    · rw [if_neg old] at h
      cases h

theorem linearOf?_eq_some_iff {n : UInt32} :
    linearOf? v = some n ↔ ∃ r : MappedRegion, r.Linear ∧ r.contains v = true ∧
      n.toNat = v.toNat - r.vaddr.toNat + fcram.vaddr.toNat := by
  constructor
  · intro h
    obtain ⟨r, kind, inside⟩ := exists_linear_of_linearOf? h
    obtain ⟨m, linear, offset⟩ := exists_linearOf?_of_linear kind inside
    have same : m = n := Option.some.inj (linear.symm.trans h)
    rw [same] at offset
    exact ⟨r, kind, inside, offset⟩
  · rintro ⟨r, kind, inside, offset⟩
    obtain ⟨m, linear, offset'⟩ := exists_linearOf?_of_linear kind inside
    have same : m = n := UInt32.toNat_inj.mp (offset'.trans offset.symm)
    rw [linear, same]

theorem isSome_linearOf? :
    (linearOf? v).isSome = true ↔ mappingOf v = some oldFcram ∨ mappingOf v = some fcram := by
  constructor
  · intro h
    obtain ⟨n, linear⟩ := Option.isSome_iff_exists.mp h
    obtain ⟨r, kind, inside⟩ := exists_linear_of_linearOf? linear
    have found : mappingOf v = some r := mappingOf_eq_some_iff.mpr ⟨kind.mem_all, inside⟩
    rcases kind with rfl | rfl
    · exact Or.inl found
    · exact Or.inr found
  · intro h
    have linear : ∃ r : MappedRegion, r.Linear ∧ mappingOf v = some r := by
      rcases h with found | found
      · exact ⟨oldFcram, Or.inl rfl, found⟩
      · exact ⟨fcram, Or.inr rfl, found⟩
    obtain ⟨r, kind, found⟩ := linear
    obtain ⟨n, some, -⟩ := exists_linearOf?_of_linear kind (mappingOf_eq_some_iff.mp found).2
    rw [some]
    rfl

/-- The linear address of newer systems lies in their mapping, is its own linear address, and
has the same memory behind it. -/
theorem of_linearOf?_eq_some {n : UInt32} (h : linearOf? v = some n) :
    mappingOf n = some fcram ∧ linearOf? n = some n ∧ physicalOf? n = physicalOf? v := by
  obtain ⟨r, kind, inside, offset⟩ := linearOf?_eq_some_iff.mp h
  have start := kind.paddr_eq
  have size := kind.size_le
  have found : mappingOf v = some r := mappingOf_eq_some_iff.mpr ⟨kind.mem_all, inside⟩
  have inside' : fcram.contains n = true := by
    obtain ⟨above, below⟩ := contains_iff.mp inside
    rw [contains_iff]
    unfold vend at below ⊢
    omega
  have found' : mappingOf n = some fcram :=
    mappingOf_eq_some_iff.mpr ⟨Linear.mem_all (Or.inr rfl), inside'⟩
  refine ⟨found', if_pos inside', ?_⟩
  ext p
  rw [physicalOf?_eq_some_iff_of_mappingOf found, physicalOf?_eq_some_iff_of_mappingOf found',
    offset, start, Nat.add_sub_cancel]

/-- **Two addresses share memory only if they are equal or have one linear address.** -/
theorem eq_or_linearOf?_eq {p : UInt32} (hv : physicalOf? v = some p)
    (hw : physicalOf? w = some p) :
    v = w ∨ ∃ n, linearOf? v = some n ∧ linearOf? w = some n := by
  obtain ⟨r, foundv, offv⟩ := physicalOf?_eq_some_iff.mp hv
  obtain ⟨s, foundw, offw⟩ := physicalOf?_eq_some_iff.mp hw
  obtain ⟨memberv, insidev⟩ := mappingOf_eq_some_iff.mp foundv
  obtain ⟨memberw, insidew⟩ := mappingOf_eq_some_iff.mp foundw
  obtain ⟨abovev, belowv⟩ := contains_iff.mp insidev
  obtain ⟨abovew, beloww⟩ := contains_iff.mp insidew
  rcases all_backedApart r memberv s memberw with rfl | apart | ⟨kindv, kindw⟩
  · -- one mapping keeps addresses apart
    left
    rw [← UInt32.toNat_inj]
    omega
  · -- no physical address lies in both runs
    unfold BackedApart pend at apart
    unfold vend at belowv beloww
    omega
  · right
    obtain ⟨n, linear, offset⟩ := exists_linearOf?_of_linear kindv insidev
    refine ⟨n, linear, linearOf?_eq_some_iff.mpr ⟨s, kindw, insidew, ?_⟩⟩
    -- both offsets count from the same physical address
    rw [kindv.paddr_eq] at offv
    rw [kindw.paddr_eq] at offw
    omega

/-- **ADDRESSES ARE TRANSLATED UNAMBIGUOUSLY, AND ONLY LINEAR ONES SHARE MEMORY.**

  · An address lies in one mapping of the table at most, whatever the order of the table,
    and the mapping that is found is the one that holds it.
  · The addresses that lie in a mapping are just those that are translated, with or without
    an error for the others, and no sum overflows; those of heap and map area are not.
  · The addresses of the two linear mappings are just those with a linear address, which
    lies in the mapping of newer systems at the same offset, is its own linear address and
    has the same memory behind it.
  · Two addresses with the same memory behind them are equal or have the same linear
    address. -/
theorem translation_unambiguous_up_to_linear (v : UInt32) :
    all.countP (·.contains v) ≤ 1
    ∧ (∀ table : List MappedRegion, table.Perm all →
        table.find? (·.contains v) = mappingOf v)
    ∧ (∀ r, mappingOf v = some r ↔
        r ∈ all ∧ r.vaddr.toNat ≤ v.toNat ∧ v.toNat < r.vend)
    ∧ (∀ p, physicalOf? v = some p ↔ ∃ r, mappingOf v = some r
        ∧ p.toNat = v.toNat - r.vaddr.toNat + r.paddr.toNat)
    ∧ (physicalOf? v).isSome = (mappingOf v).isSome
    ∧ (∀ p, physicalOf v = .ok p ↔ physicalOf? v = some p)
    ∧ (∀ fault, physicalOf v = .error fault ↔ mappingOf v = none ∧ fault = .unmapped v)
    ∧ (heapBegin ≤ v ∧ v < heapEnd ∨ mapBegin ≤ v ∧ v < mapEnd → physicalOf? v = none)
    ∧ ((linearOf? v).isSome = true ↔ mappingOf v = some oldFcram ∨ mappingOf v = some fcram)
    ∧ (∀ n, linearOf? v = some n → (∃ r, mappingOf v = some r
          ∧ n.toNat = v.toNat - r.vaddr.toNat + fcram.vaddr.toNat)
        ∧ mappingOf n = some fcram ∧ linearOf? n = some n ∧ physicalOf? n = physicalOf? v)
    ∧ (∀ w p, physicalOf? v = some p → physicalOf? w = some p →
        v = w ∨ ∃ n, linearOf? v = some n ∧ linearOf? w = some n) := by
  refine ⟨countP_contains_le_one all_apart v,
    fun table perm => find?_contains_eq_of_perm all_apart perm v, ?_,
    fun p => physicalOf?_eq_some_iff, isSome_physicalOf?, fun p => physicalOf_eq_ok_iff,
    fun fault => physicalOf_eq_error_iff, ?_, isSome_linearOf?, ?_,
    fun w p => eq_or_linearOf?_eq⟩
  · intro r
    rw [mappingOf_eq_some_iff, contains_iff]
  · intro scattered
    rw [physicalOf?, mappingOf_of_scattered scattered]
    rfl
  · intro n linear
    refine ⟨?_, of_linearOf?_eq_some linear⟩
    obtain ⟨r, kind, inside, offset⟩ := linearOf?_eq_some_iff.mp linear
    exact ⟨r, mappingOf_eq_some_iff.mpr ⟨kind.mem_all, inside⟩, offset⟩

/-- The last word of the older linear mapping and the last byte of the heap area, looked up
in the table and in its reverse. -/
theorem translation_unambiguous_up_to_linear_at_the_ends :
    (all.reverse.Perm all
      ∧ all.reverse.find? (·.contains 0x1BFFFFFC) = mappingOf 0x1BFFFFFC)
    ∧ ((heapBegin ≤ 0x0DFFFFFF ∧ (0x0DFFFFFF : UInt32) < heapEnd)
      ∧ physicalOf? 0x0DFFFFFF = none)
    ∧ (linearOf? 0x1BFFFFFC = some 0x37FFFFFC
      ∧ physicalOf? 0x37FFFFFC = physicalOf? 0x1BFFFFFC)
    ∧ (physicalOf? 0x1BFFFFFC = some 0x27FFFFFC ∧ physicalOf? 0x37FFFFFC = some 0x27FFFFFC
      ∧ ((0x1BFFFFFC : UInt32) = 0x37FFFFFC
        ∨ ∃ n, linearOf? 0x1BFFFFFC = some n ∧ linearOf? 0x37FFFFFC = some n)) := by
  have reversed : all.reverse.Perm all := List.reverse_perm all
  have heap : heapBegin ≤ 0x0DFFFFFF ∧ (0x0DFFFFFF : UInt32) < heapEnd := by decide
  have linear : linearOf? 0x1BFFFFFC = some 0x37FFFFFC := by decide
  have older : physicalOf? 0x1BFFFFFC = some 0x27FFFFFC := by decide
  have newer : physicalOf? 0x37FFFFFC = some 0x27FFFFFC := by decide
  obtain ⟨-, order, -, -, -, -, -, -, -, same, shared⟩ :=
    translation_unambiguous_up_to_linear 0x1BFFFFFC
  obtain ⟨-, -, -, -, -, -, -, scattered, -⟩ := translation_unambiguous_up_to_linear 0x0DFFFFFF
  exact ⟨⟨reversed, order _ reversed⟩, ⟨heap, scattered (Or.inl heap)⟩,
    ⟨linear, (same _ linear).2.2.2⟩, older, newer, shared _ _ older newer⟩

end Horizon
