/-
  Horizon.Proofs.Binary.Rounding
  ──────────────────────────────
  **WHAT ROUNDS TO A DATUM.**

  A positive datum `m * 2 ^ e` of a format has a neighbourhood, from a half (below a power
  of two a quarter) of its last bit below it to a half above it.  The main theorem is that
  every quotient in the neighbourhood rounds to the datum,

      (f.neighbourhood m e).Holds (n / d)  →  f.round negative n d = sign + f.bitsOf m e

  which serves both the shortest decimal digits and the conversions between formats: a
  number that the target format can hold lies in its own neighbourhood.
-/
import Horizon.Binary.Decimal
import Mathlib.Algebra.Order.Field.Power
import Mathlib.Data.Rat.Cast.Order
import Mathlib.Tactic.FieldSimp
import Mathlib.Tactic.Linarith
import Mathlib.Tactic.NormNum
import Mathlib.Tactic.Positivity
import Mathlib.Tactic.Ring

namespace Horizon.Binary

/-! ## §1. Rounding a quotient to a whole number. -/

/-- The whole number within a half of the quotient is what the quotient rounds to; at a
distance of exactly a half it has to be even. -/
theorem roundQuotient_eq {n d r : Nat} (hd : 0 < d) (hl : 2 * (r * d) ≤ 2 * n + d)
    (hu : 2 * n ≤ 2 * (r * d) + d) (hel : 2 * (r * d) = 2 * n + d → r % 2 = 0)
    (heu : 2 * n = 2 * (r * d) + d → r % 2 = 0) : roundQuotient n d = r := by
  have hn := Nat.div_add_mod n d
  have hmod := Nat.mod_lt n hd
  -- the quotient rounds to the whole number below or to the one above
  have hlow : n / d ≤ r := by
    by_contra h
    have : d * (r + 1) ≤ d * (n / d) := Nat.mul_le_mul_left d (by omega)
    rw [Nat.mul_add, Nat.mul_comm d r] at this
    omega
  have hhigh : r ≤ n / d + 1 := by
    by_contra h
    have : d * (n / d + 2) ≤ d * r := Nat.mul_le_mul_left d (by omega)
    rw [Nat.mul_add, Nat.mul_comm d r] at this
    omega
  unfold roundQuotient
  simp only
  obtain h | h : r = n / d ∨ r = n / d + 1 := by omega
  · have hr : r * d = d * (n / d) := by rw [h, Nat.mul_comm]
    split
    · exact h.symm
    · rw [if_neg (by omega)]
      have := heu (by omega)
      omega
  · have hr : r * d = d * (n / d) + d := by rw [h, Nat.add_mul, Nat.one_mul, Nat.mul_comm]
    rw [if_neg (by omega)]
    split
    · exact h.symm
    · have := hel (by omega)
      omega

/-- The same with the quotient as a rational number. -/
theorem roundQuotient_eq_of_ratio {n d r : Nat} (hd : 0 < d) {x : ℚ} (hx : (n : ℚ) / d = x)
    (hl : (r : ℚ) - 1 / 2 ≤ x) (hu : x ≤ r + 1 / 2) (hel : x = r - 1 / 2 → r % 2 = 0)
    (heu : x = r + 1 / 2 → r % 2 = 0) : roundQuotient n d = r := by
  have hd' : (0 : ℚ) < d := by exact_mod_cast hd
  have hn : (n : ℚ) = x * d := by rw [← hx, div_mul_cancel₀ _ hd'.ne']
  refine roundQuotient_eq hd ?_ ?_ (fun h => hel ?_) (fun h => heu ?_)
  · have : (2 * (r * d) : ℚ) ≤ 2 * n + d := by nlinarith
    exact_mod_cast this
  · have : (2 * n : ℚ) ≤ 2 * (r * d) + d := by nlinarith
    exact_mod_cast this
  · have h : (2 * (r * d) : ℚ) = 2 * n + d := by exact_mod_cast h
    rw [hn] at h
    have : (d : ℚ) * (2 * r) = d * (2 * x + 1) := by linarith
    have := mul_left_cancel₀ hd'.ne' this
    linarith
  · have h : (2 * n : ℚ) = 2 * (r * d) + d := by exact_mod_cast h
    rw [hn] at h
    have : (d : ℚ) * (2 * x) = d * (2 * r + 1) := by linarith
    have := mul_left_cancel₀ hd'.ne' this
    linarith

/-! ## §2. The exponent of a quotient. -/

theorem two_zpow_pos (e : Int) : (0 : ℚ) < 2 ^ e := zpow_pos (by norm_num) e

theorem two_zpow_add (e k : Int) : (2 : ℚ) ^ (e + k) = 2 ^ e * 2 ^ k :=
  zpow_add₀ (by norm_num) e k

theorem two_zpow_le {a b : Int} (h : a ≤ b) : (2 : ℚ) ^ a ≤ 2 ^ b :=
  zpow_le_zpow_right₀ (by norm_num) h

/-- A power of two as a quotient of natural numbers. -/
theorem two_zpow_eq (e : Int) :
    (2 : ℚ) ^ e = if 0 ≤ e then ((2 ^ e.toNat : Nat) : ℚ) else 1 / ((2 ^ (-e).toNat : Nat) : ℚ) := by
  split
  · rename_i h
    obtain ⟨k, rfl⟩ := Int.eq_ofNat_of_zero_le h
    simp
  · rename_i h
    obtain ⟨k, hk⟩ : ∃ k : Nat, e = -(k : Int) := ⟨(-e).toNat, by omega⟩
    subst hk
    simp

theorem scaleQuotient_pos (n : Nat) {d : Nat} (hd : 0 < d) (e : Int) :
    0 < (scaleQuotient n d e).2 := by
  unfold scaleQuotient
  split
  · exact Nat.mul_pos hd (Nat.two_pow_pos _)
  · exact hd

theorem scaleQuotient_ratio (n : Nat) {d : Nat} (hd : 0 < d) (e : Int) :
    ((scaleQuotient n d e).1 : ℚ) / (scaleQuotient n d e).2 = n / d / 2 ^ e := by
  have hd' : (d : ℚ) ≠ 0 := by exact_mod_cast hd.ne'
  unfold scaleQuotient
  rw [two_zpow_eq e]
  split
  · push_cast
    field_simp
  · push_cast
    field_simp

/-- Whole parts compare like the quotients. -/
theorem div_lt_iff_ratio {n d : Nat} (hd : 0 < d) (k : Nat) : n / d < k ↔ (n : ℚ) / d < k := by
  have hd' : (0 : ℚ) < d := by exact_mod_cast hd
  rw [Nat.div_lt_iff_lt_mul hd, div_lt_iff₀ hd']
  exact_mod_cast Iff.rfl

/-- A natural and an integer power of two make one. -/
theorem two_pow_mul_zpow (k : Nat) (e : Int) : (2 : ℚ) ^ k * 2 ^ e = 2 ^ ((k : Int) + e) := by
  rw [two_zpow_add, zpow_natCast]

/-- The logarithms of numerator and denominator tell a quotient up to a factor of two. -/
theorem ratio_log2 {n d : Nat} (hn : 0 < n) (hd : 0 < d) :
    (2 : ℚ) ^ ((n.log2 : Int) - d.log2 - 1) ≤ (n : ℚ) / d ∧
      (n : ℚ) / d < 2 ^ ((n.log2 : Int) - d.log2 + 1) := by
  have hd' : (0 : ℚ) < d := by exact_mod_cast hd
  have hnl : (2 : ℚ) ^ (n.log2 : Int) ≤ n := by exact_mod_cast Nat.log2_self_le hn.ne'
  have hnu : (n : ℚ) < 2 ^ ((n.log2 : Int) + 1) := by exact_mod_cast @Nat.lt_log2_self n
  have hdl : (2 : ℚ) ^ (d.log2 : Int) ≤ d := by exact_mod_cast Nat.log2_self_le hd.ne'
  have hdu : (d : ℚ) < 2 ^ ((d.log2 : Int) + 1) := by exact_mod_cast @Nat.lt_log2_self d
  have hlow : (2 : ℚ) ^ ((n.log2 : Int) - d.log2 - 1) * 2 ^ ((d.log2 : Int) + 1)
      = 2 ^ (n.log2 : Int) := by
    rw [← two_zpow_add]
    congr 1
    ring
  have hhigh : (2 : ℚ) ^ ((n.log2 : Int) - d.log2 + 1) * 2 ^ (d.log2 : Int)
      = 2 ^ ((n.log2 : Int) + 1) := by
    rw [← two_zpow_add]
    congr 1
    ring
  have h1 := two_zpow_pos ((n.log2 : Int) - d.log2 - 1)
  have h2 := two_zpow_pos ((n.log2 : Int) - d.log2 + 1)
  rw [le_div_iff₀ hd', div_lt_iff₀ hd']
  constructor
  · calc _ ≤ (2 : ℚ) ^ ((n.log2 : Int) - d.log2 - 1) * 2 ^ ((d.log2 : Int) + 1) :=
          mul_le_mul_of_nonneg_left hdu.le h1.le
      _ ≤ n := hlow.trans_le hnl
  · calc (n : ℚ) < 2 ^ ((n.log2 : Int) - d.log2 + 1) * 2 ^ (d.log2 : Int) := hnu.trans_eq hhigh.symm
      _ ≤ _ := mul_le_mul_of_nonneg_left hdl h2.le

/-- **The exponent of a quotient**: the significand has full width or less, and less only
at the least exponent. -/
theorem exponentOf_spec (f : Format) {n d : Nat} (hn : 0 < n) (hd : 0 < d) :
    f.leastExponent ≤ f.exponentOf n d ∧
      (n : ℚ) / d < 2 ^ (f.fractionBits + 1) * 2 ^ f.exponentOf n d ∧
      (f.exponentOf n d = f.leastExponent ∨
        2 ^ f.fractionBits * 2 ^ f.exponentOf n d ≤ (n : ℚ) / d) := by
  obtain ⟨hlow, hhigh⟩ := ratio_log2 hn hd
  obtain ⟨t, ht⟩ : ∃ t : Int, t = (n.log2 : Int) - d.log2 - f.fractionBits := ⟨_, rfl⟩
  rw [show (n.log2 : Int) - d.log2 - 1 = f.fractionBits + (t - 1) by omega] at hlow
  rw [show (n.log2 : Int) - d.log2 + 1 = (f.fractionBits + 1 : Nat) + t by omega] at hhigh
  -- the estimate is right or one too high
  obtain ⟨c, hc, hcl, hcu⟩ : ∃ c : Int, f.exponentOf n d = max c f.leastExponent ∧
      2 ^ f.fractionBits * 2 ^ c ≤ (n : ℚ) / d ∧
      (n : ℚ) / d < 2 ^ (f.fractionBits + 1) * 2 ^ c := by
    have hratio := scaleQuotient_ratio n hd t
    have hiff := div_lt_iff_ratio (@scaleQuotient_pos n d hd t) (2 ^ f.fractionBits)
      (n := (scaleQuotient n d t).1)
    rw [hratio, div_lt_iff₀ (two_zpow_pos t)] at hiff
    push_cast at hiff
    by_cases h : (scaleQuotient n d t).1 / (scaleQuotient n d t).2 < 2 ^ f.fractionBits
    · refine ⟨t - 1, ?_, ?_, ?_⟩
      · unfold Format.exponentOf
        simp only [← ht]
        rw [if_pos h]
      · rw [two_pow_mul_zpow]
        exact hlow
      · have := hiff.mp h
        rw [two_pow_mul_zpow] at this ⊢
        rw [show ((f.fractionBits + 1 : Nat) : Int) + (t - 1) = f.fractionBits + t by omega]
        exact this
    · refine ⟨t, ?_, ?_, ?_⟩
      · unfold Format.exponentOf
        simp only [← ht]
        rw [if_neg h]
      · exact not_lt.mp fun hlt => h (hiff.mpr hlt)
      · rw [two_pow_mul_zpow]
        exact hhigh
  rw [hc]
  refine ⟨le_max_right _ _, ?_, ?_⟩
  · refine hcu.trans_le (mul_le_mul_of_nonneg_left (two_zpow_le (le_max_left _ _)) ?_)
    positivity
  · by_cases h : f.leastExponent ≤ c
    · right
      rw [max_eq_left h]
      exact hcl
    · left
      exact max_eq_right (by omega)

/-! ## §3. Neighbourhoods. -/

/-- The number lies in the neighbourhood. -/
def Neighbourhood.Holds (n : Neighbourhood) (x : ℚ) : Prop :=
  (n.lower : ℚ) * 2 ^ n.scale ≤ x ∧ x ≤ (n.upper : ℚ) * 2 ^ n.scale ∧
    (n.closed = false → (n.lower : ℚ) * 2 ^ n.scale ≠ x ∧ x ≠ (n.upper : ℚ) * 2 ^ n.scale)

namespace Format

/-- A positive significand and an exponent as a format decodes them: of full width, or with
the least exponent. -/
structure Canonical (f : Format) (m : Nat) (e : Int) : Prop where
  positive : 0 < m
  bounded : m < 2 ^ (f.fractionBits + 1)
  least : f.leastExponent ≤ e
  full : e = f.leastExponent ∨ 2 ^ f.fractionBits ≤ m

/-- The bits of a datum, sign aside.  The first bit of a significand of full width counts
one in the exponent field. -/
def bitsOf (f : Format) (m : Nat) (e : Int) : Nat :=
  m + (e - f.leastExponent).toNat * 2 ^ f.fractionBits

/-- The bits of the sign. -/
def signOf (f : Format) (negative : Bool) : Nat := if negative then f.signBit else 0

variable {f : Format} {m : Nat} {e : Int}

/-- A neighbourhood reaches up by half a last bit. -/
theorem holds_le {x : ℚ} (h : (f.neighbourhood m e).Holds x) : x ≤ (4 * m + 2) * 2 ^ (e - 2) := by
  simpa [neighbourhood] using h.2.1

theorem lower_of_power (h : m = 2 ^ f.fractionBits ∧ f.leastExponent < e) :
    (f.neighbourhood m e).lower = 4 * m - 1 := by
  unfold neighbourhood
  simp [h.1, h.2]

theorem lower_of_not_power (h : ¬(m = 2 ^ f.fractionBits ∧ f.leastExponent < e)) :
    (f.neighbourhood m e).lower = 4 * m - 2 := by
  unfold neighbourhood
  simp only [beq_iff_eq, Bool.and_eq_true, decide_eq_true_eq]
  rw [if_neg h]

/-- A neighbourhood reaches down by half a last bit at most. -/
theorem holds_ge {x : ℚ} (h : (f.neighbourhood m e).Holds x) (hm : 0 < m) :
    (4 * m - 2) * 2 ^ (e - 2) ≤ x := by
  refine le_trans (mul_le_mul_of_nonneg_right ?_ (two_zpow_pos _).le) h.1
  by_cases hp : m = 2 ^ f.fractionBits ∧ f.leastExponent < e
  · rw [lower_of_power hp]
    push_cast [show 1 ≤ 4 * m by omega]
    linarith
  · rw [lower_of_not_power hp]
    push_cast [show 2 ≤ 4 * m by omega]
    linarith

/-- Below a power of two a neighbourhood reaches down by a quarter of a last bit only. -/
theorem holds_ge_of_power {x : ℚ} (h : (f.neighbourhood m e).Holds x)
    (hm : m = 2 ^ f.fractionBits) (he : f.leastExponent < e) :
    (4 * m - 1) * 2 ^ (e - 2) ≤ x := by
  have hpositive : 1 ≤ 4 * m := by
    have := Nat.two_pow_pos f.fractionBits
    omega
  have hl := h.1
  rw [lower_of_power ⟨hm, he⟩] at hl
  push_cast [hpositive] at hl
  exact hl

/-- The upper end belongs to the neighbourhood if the significand is even. -/
theorem holds_even_of_eq_upper {x : ℚ} (h : (f.neighbourhood m e).Holds x)
    (hx : x = (4 * m + 2) * 2 ^ (e - 2)) : m % 2 = 0 := by
  by_contra hodd
  have hopen : (f.neighbourhood m e).closed = false := by
    simpa [neighbourhood] using hodd
  exact (h.2.2 hopen).2 (by simpa [neighbourhood] using hx)

/-- So does the lower end. -/
theorem holds_even_of_eq_lower {x : ℚ} (h : (f.neighbourhood m e).Holds x) (hm : 0 < m)
    (hx : x = (4 * m - 2) * 2 ^ (e - 2)) : m % 2 = 0 := by
  by_contra hodd
  have hopen : (f.neighbourhood m e).closed = false := by
    simpa [neighbourhood] using hodd
  by_cases hp : m = 2 ^ f.fractionBits ∧ f.leastExponent < e
  · have := holds_ge_of_power h hp.1 hp.2
    have := two_zpow_pos (e - 2)
    linarith
  · refine (h.2.2 hopen).1 ?_
    rw [lower_of_not_power hp, hx]
    push_cast [show 2 ≤ 4 * m by omega]
    rfl

theorem two_zpow_eq_four (e : Int) : (2 : ℚ) ^ e = 4 * 2 ^ (e - 2) := by
  rw [show e = 2 + (e - 2) by ring, two_zpow_add]
  norm_num

/-- A quotient in the neighbourhood has the exponent of the datum, or the one below if it
lies below a power of two. -/
theorem exponentOf_of_holds (hc : f.Canonical m e) {n d : Nat} (hn : 0 < n) (hd : 0 < d)
    (h : (f.neighbourhood m e).Holds ((n : ℚ) / d)) :
    f.exponentOf n d = e ∨
      (m = 2 ^ f.fractionBits ∧ f.leastExponent < e ∧ f.exponentOf n d = e - 1 ∧
        (n : ℚ) / d < 2 ^ f.fractionBits * 2 ^ e) := by
  obtain ⟨hleast, hupper, hlower⟩ := exponentOf_spec f hn hd
  have hle := holds_le h
  have hge := holds_ge h hc.positive
  have hu := two_zpow_pos (e - 2)
  have hfour := two_zpow_eq_four e
  -- only the bounds on the quotient and its exponent count from here on
  generalize (n : ℚ) / d = x at *
  generalize f.exponentOf n d = E at *
  have hmW : (m : ℚ) + 1 ≤ 2 * 2 ^ f.fractionBits := by
    have : m + 1 ≤ 2 ^ f.fractionBits * 2 := by
      rw [← Nat.pow_succ]
      exact hc.bounded
    rw [mul_comm]
    exact_mod_cast this
  have hW : (1 : ℚ) ≤ 2 ^ f.fractionBits := one_le_pow₀ (by norm_num)
  -- a greater exponent would put the quotient above the neighbourhood
  have hEe : E ≤ e := by
    by_contra hlt
    rcases hlower with hlower | hlower
    · have := hc.least
      omega
    · have hstep : (2 : ℚ) * 2 ^ e ≤ 2 ^ E := by
        rw [mul_comm, ← zpow_add_one₀ (by norm_num : (2 : ℚ) ≠ 0)]
        exact two_zpow_le (by omega)
      nlinarith
  rcases eq_or_lt_of_le hEe with heq | hlt
  · exact Or.inl heq
  · right
    have hstep : (2 : ℚ) * 2 ^ E ≤ 2 ^ e := by
      rw [mul_comm, ← zpow_add_one₀ (by norm_num : (2 : ℚ) ≠ 0)]
      exact two_zpow_le (by omega)
    have hbelow : x < 2 ^ f.fractionBits * 2 ^ e := by
      rw [pow_succ] at hupper
      nlinarith
    have hpower : m = 2 ^ f.fractionBits := by
      rcases hc.full with hfull | hfull
      · omega
      · by_contra hne
        have : (2 : ℚ) ^ f.fractionBits + 1 ≤ m := by
          have : 2 ^ f.fractionBits + 1 ≤ m := by omega
          exact_mod_cast this
        nlinarith
    refine ⟨hpower, by omega, ?_, hbelow⟩
    -- two exponents less would put the quotient below the neighbourhood
    by_contra hne
    have hstep : (4 : ℚ) * 2 ^ E ≤ 2 ^ e := by
      rw [hfour]
      have := two_zpow_le (show E ≤ e - 2 by omega)
      linarith
    have hm : (m : ℚ) = 2 ^ f.fractionBits := by exact_mod_cast hpower
    have hlow := holds_ge_of_power h hpower (by omega)
    rw [hm] at hlow
    rw [pow_succ] at hupper
    nlinarith

/-- **Every quotient in a neighbourhood rounds to its datum.** -/
theorem round_of_holds (hc : f.Canonical m e) {n d : Nat} (hn : 0 < n) (hd : 0 < d)
    (h : (f.neighbourhood m e).Holds ((n : ℚ) / d)) (negative : Bool) :
    f.round negative n d = f.signOf negative + min (f.bitsOf m e) f.infinityBits := by
  have hratio := scaleQuotient_ratio n hd (f.exponentOf n d)
  have hpos := @scaleQuotient_pos n d hd (f.exponentOf n d)
  have hle := holds_le h
  have hge := holds_ge h hc.positive
  have hu := two_zpow_pos (e - 2)
  have hfour := two_zpow_eq_four e
  unfold round
  rw [if_neg hn.ne']
  simp only
  suffices hbits : roundQuotient (scaleQuotient n d (f.exponentOf n d)).1
        (scaleQuotient n d (f.exponentOf n d)).2
      + (f.exponentOf n d - f.leastExponent).toNat * 2 ^ f.fractionBits = f.bitsOf m e by
    rw [hbits]
    rfl
  rcases exponentOf_of_holds hc hn hd h with hE | ⟨hm, hleast, hE, hbelow⟩
  · -- the quotient has the exponent of the datum and rounds to its significand
    rw [hE] at hratio hpos ⊢
    unfold bitsOf
    congr 1
    refine roundQuotient_eq_of_ratio hpos hratio ?_ ?_ ?_ ?_
    · rw [le_div_iff₀ (two_zpow_pos e), hfour]
      linarith
    · rw [div_le_iff₀ (two_zpow_pos e), hfour]
      linarith
    · intro hx
      rw [div_eq_iff (two_zpow_pos e).ne', hfour] at hx
      exact holds_even_of_eq_lower h hc.positive (by linarith)
    · intro hx
      rw [div_eq_iff (two_zpow_pos e).ne', hfour] at hx
      exact holds_even_of_eq_upper h (by linarith)
  · -- it lies below a power of two and rounds up to it from the exponent below
    have hlow := holds_ge_of_power h hm hleast
    have hm' : (m : ℚ) = 2 ^ f.fractionBits := by exact_mod_cast hm
    have htwo : (2 : ℚ) ^ (e - 1) = 2 * 2 ^ (e - 2) := by
      rw [show e - 1 = 1 + (e - 2) by ring, two_zpow_add, zpow_one]
    have hround : roundQuotient (scaleQuotient n d (f.exponentOf n d)).1
        (scaleQuotient n d (f.exponentOf n d)).2 = 2 ^ (f.fractionBits + 1) := by
      rw [hE] at hratio hpos ⊢
      refine roundQuotient_eq_of_ratio hpos hratio ?_ ?_ ?_ ?_
      · rw [le_div_iff₀ (two_zpow_pos _), htwo, pow_succ]
        push_cast
        rw [hm'] at hlow
        linarith
      · rw [div_le_iff₀ (two_zpow_pos _), htwo, pow_succ]
        push_cast
        rw [hfour] at hbelow
        linarith
      · exact fun _ => by rw [pow_succ]; exact Nat.mul_mod_left _ _
      · exact fun _ => by rw [pow_succ]; exact Nat.mul_mod_left _ _
    rw [hround, hE]
    unfold bitsOf
    obtain ⟨k, hk⟩ : ∃ k : Nat, e = f.leastExponent + (k + 1 : Nat) :=
      ⟨(e - f.leastExponent - 1).toNat, by omega⟩
    rw [hm, hk, show (f.leastExponent + (k + 1 : Nat) - 1 - f.leastExponent).toNat = k by omega,
      show (f.leastExponent + (k + 1 : Nat) - f.leastExponent).toNat = k + 1 by omega, pow_succ]
    ring

/-- The same of a datum that is not too large for the format, and of any number that the
quotient is. -/
theorem round_of_ratio (hc : f.Canonical m e) (hm : f.bitsOf m e < f.infinityBits) {n d : Nat}
    (hn : 0 < n) (hd : 0 < d) {x : ℚ} (hx : (n : ℚ) / d = x)
    (h : (f.neighbourhood m e).Holds x) (negative : Bool) :
    f.round negative n d = f.signOf negative + f.bitsOf m e := by
  rw [← hx] at h
  rw [round_of_holds hc hn hd h, Nat.min_eq_left hm.le]

end Format

end Horizon.Binary
