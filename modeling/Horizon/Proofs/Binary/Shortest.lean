/-
  Horizon.Proofs.Binary.Shortest
  ──────────────────────────────
  **THE SHORTEST DIGITS READ BACK.**

  `Format.shortest` looks for a decimal in the neighbourhood of a datum on ever finer
  grids.  Seventeen places are enough for every format whose significands have fewer than
  seventeen digits: on the last grid one of the two neighbours of the datum is within half
  a grid step of it, and that is less than half of its last bit.  What is found rounds to
  the datum by `Format.round_of_holds`.
-/
import Horizon.Proofs.Binary.Bits
import Horizon.Proofs.Text.Numeral

namespace Horizon.Binary

/-! ## §1. Decimals as rational numbers. -/

theorem ten_zpow_pos (e : Int) : (0 : ℚ) < 10 ^ e := zpow_pos (by norm_num) e

/-- A power of ten as a quotient of natural numbers. -/
theorem ten_zpow_eq (e : Int) :
    (10 : ℚ) ^ e = if 0 ≤ e then ((10 ^ e.toNat : Nat) : ℚ) else 1 / ((10 ^ (-e).toNat : Nat) : ℚ) := by
  split
  · rename_i h
    obtain ⟨k, rfl⟩ := Int.eq_ofNat_of_zero_le h
    simp
  · rename_i h
    obtain ⟨k, hk⟩ : ∃ k : Nat, e = -(k : Int) := ⟨(-e).toNat, by omega⟩
    subst hk
    simp

/-- The number that a decimal stands for. -/
def Decimal.value (d : Decimal) : ℚ := d.coefficient * 10 ^ d.exponent

theorem tenScale_pos (n : Nat) {d : Nat} (hd : 0 < d) (e : Int) : 0 < (tenScale n d e).2 := by
  unfold tenScale
  split
  · exact Nat.mul_pos hd (Nat.pow_pos (by decide))
  · exact hd

theorem tenScale_ratio (n : Nat) {d : Nat} (hd : 0 < d) (e : Int) :
    ((tenScale n d e).1 : ℚ) / (tenScale n d e).2 = n / d / 10 ^ e := by
  have hd' : (d : ℚ) ≠ 0 := by exact_mod_cast hd.ne'
  unfold tenScale
  rw [ten_zpow_eq e]
  split
  · push_cast
    field_simp
  · push_cast
    field_simp

/-- A number has at least the digits that its size needs. -/
theorem pow_length_le {n : Nat} (h : 0 < n) : 10 ^ ((Nat.toDigits 10 n).length - 1) ≤ n := by
  by_contra hlt
  by_cases hone : (Nat.toDigits 10 n).length - 1 = 0
  · rw [hone] at hlt
    omega
  · have := (Nat.length_toDigits_le_iff (by decide) (by omega)).mpr (not_le.mp hlt)
    omega

theorem lt_pow_length (n : Nat) : n < 10 ^ (Nat.toDigits 10 n).length :=
  (Nat.length_toDigits_le_iff (by decide) Nat.length_toDigits_pos).mp le_rfl

/-- The leading digit of a positive quotient counts a power of ten that is not above it. -/
theorem leadingExponent_le {n d : Nat} (hn : 0 < n) (hd : 0 < d) :
    (10 : ℚ) ^ leadingExponent n d ≤ (n : ℚ) / d := by
  have hd' : (0 : ℚ) < d := by exact_mod_cast hd
  have hn' : (0 : ℚ) < n := by exact_mod_cast hn
  unfold leadingExponent
  split
  · -- the whole part has that many digits
    rename_i hle
    have hq : 0 < n / d := Nat.div_pos hle hd
    have hlength := @Nat.length_toDigits_pos 10 (n / d)
    have hpow := pow_length_le hq
    obtain ⟨k, hk⟩ : ∃ k, (Nat.toDigits 10 (n / d)).length = k + 1 :=
      ⟨(Nat.toDigits 10 (n / d)).length - 1, by omega⟩
    rw [hk] at hpow ⊢
    rw [show ((k + 1 : Nat) : Int) - 1 = k by omega, zpow_natCast, le_div_iff₀ hd']
    have : 10 ^ k * d ≤ n := le_trans (Nat.mul_le_mul_right d hpow) (Nat.div_mul_le_self n d)
    exact_mod_cast this
  · -- the quotient is the inverse of a number with that many digits at most
    have hdigits := lt_pow_length ((d - 1) / n)
    have hlt : d - 1 < 10 ^ (Nat.toDigits 10 ((d - 1) / n)).length * n :=
      (Nat.div_lt_iff_lt_mul hn).mp hdigits
    rw [zpow_neg, zpow_natCast, inv_le_comm₀ (by positivity) (by positivity), inv_div,
      div_le_iff₀ hn']
    have : d ≤ 10 ^ (Nat.toDigits 10 ((d - 1) / n)).length * n := by omega
    exact_mod_cast this

/-! ## §2. The search. -/

/-- Membership in a neighbourhood is decided without division. -/
theorem contains_iff (n : Neighbourhood) (c : Nat) (e : Int) :
    n.contains c e = true ↔ n.Holds (c * 10 ^ e) := by
  obtain ⟨tens, parts, hparts, hten, htens, hparts'⟩ :
      ∃ tens parts : Nat, 0 < parts ∧ (10 : ℚ) ^ e = tens / parts ∧
        tens = (if 0 ≤ e then 10 ^ e.toNat else 1) ∧
        parts = (if 0 ≤ e then 1 else 10 ^ (-e).toNat) := by
    refine ⟨_, _, ?_, ?_, rfl, rfl⟩
    · split <;> positivity
    · rw [ten_zpow_eq]
      split <;> simp
  obtain ⟨twos, halves, hhalves, htwo, htwos, hhalves'⟩ :
      ∃ twos halves : Nat, 0 < halves ∧ (2 : ℚ) ^ n.scale = twos / halves ∧
        twos = (if 0 ≤ n.scale then 2 ^ n.scale.toNat else 1) ∧
        halves = (if 0 ≤ n.scale then 1 else 2 ^ (-n.scale).toNat) := by
    refine ⟨_, _, ?_, ?_, rfl, rfl⟩
    · split <;> positivity
    · rw [two_zpow_eq]
      split <;> simp
  have hp : (0 : ℚ) < parts := by exact_mod_cast hparts
  have hh : (0 : ℚ) < halves := by exact_mod_cast hhalves
  -- both sides times both denominators
  have hlower : (n.lower : ℚ) * 2 ^ n.scale ≤ c * 10 ^ e
      ↔ n.lower * twos * parts ≤ c * tens * halves := by
    rw [htwo, hten, mul_div_assoc', mul_div_assoc', div_le_div_iff₀ hh hp]
    exact_mod_cast Iff.rfl
  have hupper : (c : ℚ) * 10 ^ e ≤ n.upper * 2 ^ n.scale
      ↔ c * tens * halves ≤ n.upper * twos * parts := by
    rw [htwo, hten, mul_div_assoc', mul_div_assoc', div_le_div_iff₀ hp hh]
    exact_mod_cast Iff.rfl
  have hlower' : (n.lower : ℚ) * 2 ^ n.scale = c * 10 ^ e
      ↔ n.lower * twos * parts = c * tens * halves := by
    rw [htwo, hten, mul_div_assoc', mul_div_assoc', div_eq_div_iff hh.ne' hp.ne']
    exact_mod_cast Iff.rfl
  have hupper' : (c : ℚ) * 10 ^ e = n.upper * 2 ^ n.scale
      ↔ c * tens * halves = n.upper * twos * parts := by
    rw [htwo, hten, mul_div_assoc', mul_div_assoc', div_eq_div_iff hp.ne' hh.ne']
    exact_mod_cast Iff.rfl
  unfold Neighbourhood.Holds Neighbourhood.contains
  simp only [← htens, ← hparts', ← htwos, ← hhalves', ne_eq, hlower, hupper, hlower', hupper']
  cases n.closed with
  | true => simp
  | false =>
      simp only [Bool.false_eq_true, if_false, Bool.and_eq_true, decide_eq_true_eq,
        forall_const]
      omega

/-- What is found on a grid lies in the neighbourhood. -/
theorem onGrid_holds {n : Neighbourhood} {tie : Tie} {e : Int} {d : Decimal}
    (h : n.onGrid tie e = some d) : n.Holds d.value := by
  unfold Neighbourhood.onGrid at h
  simp only [Option.map_eq_some_iff] at h
  obtain ⟨c, hc, rfl⟩ := h
  have hit := List.find?_some hc
  exact (contains_iff n c e).mp hit

/-- A grid whose steps are less than twice the distance of the datum to the ends has a
point in the neighbourhood. -/
theorem onGrid_isSome {n : Neighbourhood} (tie : Tie) {e : Int} (gap : ℚ)
    (hl : (n.lower : ℚ) * 2 ^ n.scale ≤ n.value * 2 ^ n.scale - gap)
    (hu : n.value * 2 ^ n.scale + gap ≤ (n.upper : ℚ) * 2 ^ n.scale)
    (hg : (10 : ℚ) ^ e < 2 * gap) : (n.onGrid tie e).isSome := by
  have hten := ten_zpow_pos e
  obtain ⟨p, hp⟩ : ∃ p, p = scaleQuotient n.value 1 (-n.scale) := ⟨_, rfl⟩
  obtain ⟨q, hq⟩ : ∃ q, q = tenScale p.1 p.2 e := ⟨_, rfl⟩
  have hp0 : 0 < p.2 := hp ▸ scaleQuotient_pos _ Nat.one_pos _
  have hq0 : 0 < q.2 := hq ▸ tenScale_pos _ hp0 _
  have hratio : (q.1 : ℚ) / q.2 = n.value * 2 ^ n.scale / 10 ^ e := by
    rw [hq, tenScale_ratio _ hp0, hp, scaleQuotient_ratio _ Nat.one_pos, zpow_neg]
    simp
  -- the datum lies between two neighbours on the grid
  have hbelow : ((q.1 / q.2 : Nat) : ℚ) * 10 ^ e ≤ n.value * 2 ^ n.scale := by
    rw [← le_div_iff₀ hten, ← hratio, le_div_iff₀ (by exact_mod_cast hq0)]
    exact_mod_cast Nat.div_mul_le_self q.1 q.2
  have habove : n.value * 2 ^ n.scale < ((q.1 / q.2 + 1 : Nat) : ℚ) * 10 ^ e := by
    rw [← div_lt_iff₀ hten, ← hratio, ← div_lt_iff_ratio hq0]
    exact Nat.lt_succ_self _
  have hstep : ((q.1 / q.2 + 1 : Nat) : ℚ) * 10 ^ e = ((q.1 / q.2 : Nat) : ℚ) * 10 ^ e + 10 ^ e := by
    push_cast
    ring
  have hit : n.contains (q.1 / q.2) e ∨ n.contains (q.1 / q.2 + 1) e := by
    rw [contains_iff, contains_iff]
    unfold Neighbourhood.Holds
    rcases le_total (2 * (n.value * 2 ^ n.scale - ((q.1 / q.2 : Nat) : ℚ) * 10 ^ e)) (10 ^ e)
      with hnear | hnear
    · exact Or.inl ⟨by linarith, by linarith, fun _ => ⟨by linarith, by linarith⟩⟩
    · refine Or.inr ⟨by linarith, by linarith, fun _ => ⟨?_, ?_⟩⟩
      · exact ne_of_lt (by linarith)
      · exact ne_of_lt (by linarith)
  unfold Neighbourhood.onGrid
  simp only [Option.isSome_map, ← hp, ← hq, List.find?_isSome]
  rcases hit with hit | hit
  · refine ⟨q.1 / q.2, ?_, hit⟩
    split <;> simp
  · refine ⟨q.1 / q.2 + 1, ?_, hit⟩
    split <;> simp

/-- The search ends with a hit if there is one on the last grid. -/
theorem search_holds {n : Neighbourhood} {tie : Tie} {leading : Int} {tries places : Nat}
    (h : (n.onGrid tie (leading - (places + tries : Nat))).isSome) :
    n.Holds (n.search tie leading (tries + 1) places).value := by
  induction tries generalizing places with
  | zero =>
      obtain ⟨d, hd⟩ := Option.isSome_iff_exists.mp h
      unfold Neighbourhood.search
      rw [Nat.add_zero] at hd
      rw [hd]
      exact onGrid_holds hd
  | succ tries ih =>
      unfold Neighbourhood.search
      cases hd : n.onGrid tie (leading - places) with
      | some d => exact onGrid_holds hd
      | none =>
          refine ih ?_
          rw [Nat.add_assoc, Nat.add_comm 1]
          exact h

/-- Leaving out zeros at the end does not change the number. -/
theorem normalize_value (d : Decimal) : d.normalize.value = d.value := by
  have hgo : ∀ fuel d, (Decimal.normalize.go d fuel).value = d.value := by
    intro fuel
    induction fuel with
    | zero => exact fun d => rfl
    | succ fuel ih =>
        intro d
        unfold Decimal.normalize.go
        split
        · rename_i h
          have hc : (d.coefficient : ℚ) = 10 * (d.coefficient / 10 : Nat) := by
            have : d.coefficient = 10 * (d.coefficient / 10) := by omega
            exact_mod_cast this
          rw [ih]
          unfold Decimal.value
          rw [zpow_add_one₀ (by norm_num : (10 : ℚ) ≠ 0), hc]
          ring
        · rfl
  exact hgo _ d

/-! ## §3. The shortest digits. -/

variable {f : Format} {m : Nat} {e : Int}

/-- The value of a datum as a quotient. -/
theorem quotient_ratio (m : Nat) (e : Int) (negative : Bool) :
    0 < (Datum.quotient (.finite negative m e)).2 ∧
      ((Datum.quotient (.finite negative m e)).1 : ℚ) / (Datum.quotient (.finite negative m e)).2
        = m * 2 ^ e := by
  simp only [Datum.quotient]
  rw [two_zpow_eq]
  by_cases h : 0 ≤ e
  · simp [h]
  · simp only [if_neg h]
    refine ⟨Nat.two_pow_pos _, ?_⟩
    ring

theorem quotient_pos (hm : 0 < m) (e : Int) (negative : Bool) :
    0 < (Datum.quotient (.finite negative m e)).1 := by
  obtain ⟨hd, hratio⟩ := quotient_ratio m e negative
  have hd' : (0 : ℚ) < (Datum.quotient (.finite negative m e)).2 := by exact_mod_cast hd
  have hm' : (0 : ℚ) < m := by exact_mod_cast hm
  rw [div_eq_iff hd'.ne'] at hratio
  have hpos := mul_pos (mul_pos hm' (two_zpow_pos e)) hd'
  rw [← hratio] at hpos
  exact_mod_cast hpos

/-- How far the datum is from both ends of its neighbourhood, against its size. -/
theorem exists_gap (hf : 2 ^ (f.fractionBits + 1) < 10 ^ 16) (hc : f.Canonical m e) :
    ∃ gap : ℚ,
      ((f.neighbourhood m e).lower : ℚ) * 2 ^ (e - 2) ≤ 4 * m * 2 ^ (e - 2) - gap ∧
      4 * m * 2 ^ (e - 2) + gap ≤ ((f.neighbourhood m e).upper : ℚ) * 2 ^ (e - 2) ∧
      (m * 2 ^ e : ℚ) < 2 * gap * 10 ^ 16 := by
  have hu := two_zpow_pos (e - 2)
  have hfour := Format.two_zpow_eq_four e
  have hm := hc.positive
  have hwidth : (2 : ℚ) * 2 ^ f.fractionBits < 10 ^ 16 := by
    rw [mul_comm, ← pow_succ]
    exact_mod_cast hf
  have hupper : ((f.neighbourhood m e).upper : ℚ) = 4 * m + 2 := by simp [Format.neighbourhood]
  by_cases hp : m = 2 ^ f.fractionBits ∧ f.leastExponent < e
  · -- the lower end is nearer, but the significand is the smallest of its width
    have hlower : ((f.neighbourhood m e).lower : ℚ) = 4 * m - 1 := by
      rw [Format.lower_of_power hp]
      push_cast [show 1 ≤ 4 * m by omega]
      rfl
    have hpower : (m : ℚ) = 2 ^ f.fractionBits := by exact_mod_cast hp.1
    refine ⟨2 ^ (e - 2), ?_, ?_, ?_⟩
    · rw [hlower]
      linarith
    · rw [hupper]
      linarith
    · rw [hpower, hfour]
      nlinarith
  · have hlower : ((f.neighbourhood m e).lower : ℚ) = 4 * m - 2 := by
      rw [Format.lower_of_not_power hp]
      push_cast [show 2 ≤ 4 * m by omega]
      rfl
    have hbounded : (m : ℚ) < 2 * 2 ^ f.fractionBits := by
      rw [mul_comm, ← pow_succ]
      exact_mod_cast hc.bounded
    refine ⟨2 * 2 ^ (e - 2), ?_, ?_, ?_⟩
    · rw [hlower]
      linarith
    · rw [hupper]
      linarith
    · rw [hfour]
      nlinarith

/-- **The shortest digits lie in the neighbourhood.** -/
theorem shortest_holds (hf : 2 ^ (f.fractionBits + 1) < 10 ^ 16) (tie : Tie)
    (hc : f.Canonical m e) : (f.neighbourhood m e).Holds (f.shortest tie m e).value := by
  obtain ⟨hd, hratio⟩ := quotient_ratio m e false
  obtain ⟨gap, hlower, hupper, hgap⟩ := exists_gap hf hc
  have hleading := leadingExponent_le (quotient_pos hc.positive e false) hd
  rw [hratio] at hleading
  unfold Format.shortest
  simp only
  rw [normalize_value]
  generalize leadingExponent _ _ = leading at hleading ⊢
  apply search_holds
  rw [show leading - ((0 + 16 : Nat) : Int) = leading - 16 by norm_num]
  have hvalue : ((f.neighbourhood m e).value : ℚ) = 4 * m := by simp [Format.neighbourhood]
  have hscale : (f.neighbourhood m e).scale = e - 2 := rfl
  -- a step of the last grid is a small part of the datum
  have hstep : (10 : ℚ) ^ (leading - 16) * 10 ^ 16 = 10 ^ leading := by
    rw [← zpow_natCast, ← zpow_add₀ (by norm_num)]
    congr 1
    simp
  refine onGrid_isSome tie gap ?_ ?_ ?_
  · rw [hscale, hvalue]
    exact hlower
  · rw [hscale, hvalue]
    exact hupper
  · refine lt_of_mul_lt_mul_right ?_ (show (0 : ℚ) ≤ 10 ^ 16 by norm_num)
    rw [hstep]
    exact hleading.trans_lt hgap

end Horizon.Binary
