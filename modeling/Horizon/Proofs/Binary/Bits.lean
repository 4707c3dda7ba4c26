/-
  Horizon.Proofs.Binary.Bits
  ──────────────────────────
  **DATA AND THEIR BITS.**

  Decoding takes the sign and the two fields of the bits apart, and `Format.bitsOf` puts
  them together again.  So the bits of a number are determined by its value, and a number
  that is converted to a format that can hold it, and back, has its old bits.
-/
import Horizon.Proofs.Binary.Rounding

namespace Horizon.Binary

namespace Format

variable {f : Format} {m : Nat} {e : Int}

/-! ## §1. Bits of data. -/

theorem signBit_eq (f : Format) : f.signBit = 2 ^ f.fractionBits * 2 ^ f.exponentBits :=
  pow_add _ _ _

/-- Bits are made of a sign and two fields. -/
theorem exists_fields {bits : Nat} (hb : bits < 2 * f.signBit) :
    ∃ negative x t, x < 2 ^ f.exponentBits ∧ t < 2 ^ f.fractionBits ∧
      bits = f.signOf negative + (x * 2 ^ f.fractionBits + t) := by
  have hP := Nat.two_pow_pos f.fractionBits
  have hS := signBit_eq f
  have field : ∀ rest, rest < f.signBit →
      ∃ x t, x < 2 ^ f.exponentBits ∧ t < 2 ^ f.fractionBits ∧
        rest = x * 2 ^ f.fractionBits + t := by
    intro rest hrest
    refine ⟨rest / 2 ^ f.fractionBits, rest % 2 ^ f.fractionBits, ?_, Nat.mod_lt _ hP, ?_⟩
    · rw [Nat.div_lt_iff_lt_mul hP, Nat.mul_comm, ← hS]
      exact hrest
    · rw [Nat.mul_comm, Nat.div_add_mod]
  by_cases h : bits < f.signBit
  · obtain ⟨x, t, hx, ht, heq⟩ := field bits h
    exact ⟨false, x, t, hx, ht, by simpa [signOf] using heq⟩
  · obtain ⟨x, t, hx, ht, heq⟩ := field (bits - f.signBit) (by omega)
    refine ⟨true, x, t, hx, ht, ?_⟩
    rw [← heq, signOf, if_pos rfl]
    omega

/-- Decoding takes the fields apart. -/
theorem decode_fields (negative : Bool) {x t : Nat} (hx : x < 2 ^ f.exponentBits)
    (ht : t < 2 ^ f.fractionBits) :
    f.decode (f.signOf negative + (x * 2 ^ f.fractionBits + t))
      = if x = f.topExponent then
          if t = 0 then .infinite negative else .nan negative
        else if x = 0 then .finite negative t f.leastExponent
        else .finite negative (2 ^ f.fractionBits + t) (f.leastExponent + x - 1) := by
  have hP := Nat.two_pow_pos f.fractionBits
  have hS := signBit_eq f
  have hlt : x * 2 ^ f.fractionBits + t < f.signBit := by
    have : (x + 1) * 2 ^ f.fractionBits ≤ 2 ^ f.exponentBits * 2 ^ f.fractionBits :=
      Nat.mul_le_mul_right _ hx
    rw [Nat.add_mul, Nat.one_mul] at this
    rw [hS, Nat.mul_comm (2 ^ f.fractionBits)]
    omega
  have hrest : (x * 2 ^ f.fractionBits + t) / 2 ^ f.fractionBits = x := by
    rw [Nat.mul_comm, Nat.mul_add_div hP, Nat.div_eq_of_lt ht, Nat.add_zero]
  have hsign : (f.signOf negative + (x * 2 ^ f.fractionBits + t)) / f.signBit % 2
      = negative.toNat := by
    cases negative with
    | false => simp [signOf, Nat.div_eq_of_lt hlt]
    | true =>
        have hpos : 0 < f.signBit := by omega
        simp [signOf, Nat.add_div_left _ hpos, Nat.div_eq_of_lt hlt]
  have hexponent : (f.signOf negative + (x * 2 ^ f.fractionBits + t)) / 2 ^ f.fractionBits
      % 2 ^ f.exponentBits = x := by
    cases negative with
    | false => simp [signOf, hrest, Nat.mod_eq_of_lt hx]
    | true =>
        rw [signOf, if_pos rfl, hS, Nat.mul_add_div hP, hrest, Nat.add_mod_left,
          Nat.mod_eq_of_lt hx]
  have hfraction : (f.signOf negative + (x * 2 ^ f.fractionBits + t)) % 2 ^ f.fractionBits
      = t := by
    rw [← Nat.add_assoc, Nat.add_mod, Nat.add_mul_mod_self_right, signOf, hS]
    cases negative <;> simp [Nat.mod_eq_of_lt ht]
  unfold decode
  simp only [hsign, hexponent, hfraction]
  cases negative <;> rfl

/-- The fields of a datum's bits. -/
theorem bitsOf_eq_fields (hc : f.Canonical m e) :
    ∃ x t, t < 2 ^ f.fractionBits ∧ f.bitsOf m e = x * 2 ^ f.fractionBits + t ∧
      (x = 0 ∧ t = m ∧ e = f.leastExponent ∨
        x ≠ 0 ∧ m = 2 ^ f.fractionBits + t ∧ e = f.leastExponent + x - 1) := by
  have hbounded := hc.bounded
  have hleast := hc.least
  rw [pow_succ] at hbounded
  unfold bitsOf
  -- the first bit of full width goes into the exponent field
  by_cases hfull : 2 ^ f.fractionBits ≤ m
  · refine ⟨(e - f.leastExponent).toNat + 1, m - 2 ^ f.fractionBits, by omega, ?_,
      Or.inr ⟨by omega, by omega, by omega⟩⟩
    rw [Nat.add_mul, Nat.one_mul]
    omega
  · have he : e = f.leastExponent := hc.full.resolve_right hfull
    refine ⟨0, m, by omega, ?_, Or.inl ⟨rfl, rfl, he⟩⟩
    simp [he]

/-- Bits below those of infinity have an exponent field of their own. -/
theorem exponent_lt {x t : Nat} (h : x * 2 ^ f.fractionBits + t < f.infinityBits) :
    x < f.topExponent := by
  by_contra hx
  have : f.topExponent * 2 ^ f.fractionBits ≤ x * 2 ^ f.fractionBits :=
    Nat.mul_le_mul_right _ (by omega)
  unfold infinityBits at h
  omega

/-- **The bits of a datum decode to it.** -/
theorem decode_bitsOf (hc : f.Canonical m e) (hm : f.bitsOf m e < f.infinityBits)
    (negative : Bool) : f.decode (f.signOf negative + f.bitsOf m e) = .finite negative m e := by
  obtain ⟨x, t, ht, hbits, hcases⟩ := bitsOf_eq_fields hc
  rw [hbits] at hm ⊢
  have hx := exponent_lt hm
  have hxlt : x < 2 ^ f.exponentBits := by
    unfold topExponent at hx
    omega
  rw [decode_fields negative hxlt ht, if_neg hx.ne]
  rcases hcases with ⟨rfl, rfl, rfl⟩ | ⟨hx0, rfl, rfl⟩
  · rw [if_pos rfl]
  · rw [if_neg hx0]

/-- A sign alone decodes to a zero. -/
theorem decode_signOf (hf : f.topExponent ≠ 0) (negative : Bool) :
    f.decode (f.signOf negative) = .finite negative 0 f.leastExponent := by
  have h := decode_fields (f := f) negative (Nat.two_pow_pos _) (Nat.two_pow_pos _)
  rw [Nat.zero_mul, if_neg hf.symm, if_pos rfl] at h
  exact h

/-- **What decodes to a finite datum are its bits.** -/
theorem eq_of_decode {bits : Nat} (hb : bits < 2 * f.signBit) {negative : Bool}
    (h : f.decode bits = .finite negative m e) :
    bits = f.signOf negative + f.bitsOf m e ∧ f.bitsOf m e < f.infinityBits ∧
      (0 < m → f.Canonical m e) ∧ (m = 0 → e = f.leastExponent) := by
  obtain ⟨sign, x, t, hx, ht, rfl⟩ := exists_fields hb
  rw [decode_fields sign hx ht] at h
  -- the top exponent field is kept for what is no number
  by_cases htop : x = f.topExponent
  · rw [if_pos htop] at h
    split at h <;> cases h
  rw [if_neg htop] at h
  have hinfinity : x * 2 ^ f.fractionBits + t < f.infinityBits := by
    have : (x + 1) * 2 ^ f.fractionBits ≤ f.topExponent * 2 ^ f.fractionBits := by
      refine Nat.mul_le_mul_right _ ?_
      unfold topExponent at htop ⊢
      omega
    rw [Nat.add_mul, Nat.one_mul] at this
    unfold infinityBits
    omega
  -- an empty exponent field means no hidden bit
  by_cases hzero : x = 0
  · rw [if_pos hzero] at h
    cases h
    have hbits : f.bitsOf m f.leastExponent = x * 2 ^ f.fractionBits + m := by
      simp [bitsOf, hzero]
    rw [hbits]
    refine ⟨rfl, hinfinity, fun hm => ⟨hm, ?_, le_rfl, Or.inl rfl⟩, fun _ => rfl⟩
    rw [pow_succ]
    omega
  · rw [if_neg hzero] at h
    cases h
    have hbits : f.bitsOf (2 ^ f.fractionBits + t) (f.leastExponent + x - 1)
        = x * 2 ^ f.fractionBits + t := by
      unfold bitsOf
      obtain ⟨k, rfl⟩ : ∃ k, x = k + 1 := ⟨x - 1, by omega⟩
      rw [show (f.leastExponent + (k + 1 : Nat) - 1 - f.leastExponent).toNat = k by omega,
        Nat.add_mul, Nat.one_mul]
      omega
    have hP := Nat.two_pow_pos f.fractionBits
    rw [hbits]
    refine ⟨rfl, hinfinity, fun hm => ⟨hm, ?_, by omega, Or.inr (by omega)⟩, fun hm => by omega⟩
    rw [pow_succ]
    omega

/-! ## §2. Conversions between formats. -/

/-- A datum lies in its own neighbourhood. -/
theorem holds_self (hm : 0 < m) : (f.neighbourhood m e).Holds (m * 2 ^ e) := by
  have hu := two_zpow_pos (e - 2)
  have hfour := two_zpow_eq_four e
  have hlower : (f.neighbourhood m e).lower < 4 * m := by
    unfold neighbourhood
    simp only
    split <;> omega
  have hlower : ((f.neighbourhood m e).lower : ℚ) < 4 * m := by exact_mod_cast hlower
  have hupper : ((f.neighbourhood m e).upper : ℚ) = 4 * m + 2 := by simp [neighbourhood]
  have hscale : (f.neighbourhood m e).scale = e - 2 := rfl
  have h1 : ((f.neighbourhood m e).lower : ℚ) * 2 ^ (e - 2) < m * 2 ^ e := by
    rw [hfour]
    nlinarith
  have h2 : (m : ℚ) * 2 ^ e < (f.neighbourhood m e).upper * 2 ^ (e - 2) := by
    rw [hfour, hupper]
    nlinarith
  unfold Neighbourhood.Holds
  rw [hscale]
  exact ⟨h1.le, h2.le, fun _ => ⟨h1.ne, h2.ne⟩⟩

/-- A datum of another format with the same value is converted to the bits of that. -/
theorem ofDatum_eq (hc : f.Canonical m e) (hm : f.bitsOf m e < f.infinityBits)
    {significand : Nat} {exponent : Int} (hv : (significand : ℚ) * 2 ^ exponent = m * 2 ^ e)
    (negative : Bool) :
    f.ofDatum (.finite negative significand exponent) = f.signOf negative + f.bitsOf m e := by
  have hpositive : 0 < significand := by
    rcases Nat.eq_zero_or_pos significand with rfl | h
    · have hm : (0 : ℚ) < m := by exact_mod_cast hc.positive
      have := mul_pos hm (two_zpow_pos e)
      rw [Nat.cast_zero, zero_mul] at hv
      linarith
    · exact h
  have hholds : (f.neighbourhood m e).Holds (significand * 2 ^ exponent) := by
    rw [hv]
    exact holds_self hc.positive
  -- the conversion rounds one of two quotients, after the sign of the exponent
  have hpow := two_zpow_eq exponent
  unfold ofDatum
  simp only
  split
  · rename_i h
    rw [if_pos h] at hpow
    refine round_of_ratio hc hm (Nat.mul_pos hpositive (Nat.two_pow_pos _)) Nat.one_pos ?_
      hholds negative
    rw [hpow]
    push_cast
    ring
  · rename_i h
    rw [if_neg h] at hpow
    refine round_of_ratio hc hm hpositive (Nat.two_pow_pos _) ?_ hholds negative
    rw [hpow]
    ring

theorem ofDatum_zero (f : Format) (negative : Bool) (exponent : Int) :
    f.ofDatum (.finite negative 0 exponent) = f.signOf negative := by
  unfold ofDatum round
  simp [signOf]

end Format

/-- The bits stand for a number. -/
def Datum.IsFinite (d : Datum) : Prop :=
  ∃ negative significand exponent, d = .finite negative significand exponent

/-- The bits of a 64-bit datum as a word. -/
theorem Double.datum_ofNat {bits : Nat} (h : bits < 2 ^ 64) :
    (Double.mk (UInt64.ofNat bits)).datum = Format.double.decode bits := by
  unfold Double.datum
  rw [UInt64.toNat_ofNat_of_lt' h]

theorem Format.leastExponent_double : Format.double.leastExponent = -1074 := rfl

/-- A 32-bit datum has a 64-bit one of full width with the same value. -/
theorem exists_double {m : Nat} {e : Int} (hc : Format.single.Canonical m e)
    (hm : Format.single.bitsOf m e < Format.single.infinityBits) :
    ∃ M E, Format.double.Canonical M E ∧
      Format.double.bitsOf M E < Format.double.infinityBits ∧ (M : ℚ) * 2 ^ E = m * 2 ^ e := by
  have hbounded : m < 2 ^ 24 := hc.bounded
  have hleast : -149 ≤ e := hc.least
  have hmost : e < 106 := by
    have : m + (e - (-149)).toNat * 2 ^ 23 < 255 * 2 ^ 23 := hm
    omega
  have hlog : m.log2 < 24 := (Nat.log2_lt hc.positive.ne').mpr hbounded
  have hlow := Nat.log2_self_le hc.positive.ne'
  have hhigh := @Nat.lt_log2_self m
  -- shift the significand up to full width
  obtain ⟨j, hj⟩ : ∃ j : Nat, j + m.log2 = 52 := ⟨52 - m.log2, by omega⟩
  have hfull : 2 ^ 52 ≤ m * 2 ^ j := by
    rw [← hj, Nat.add_comm j, Nat.pow_add]
    exact Nat.mul_le_mul_right _ hlow
  have hwidth : m * 2 ^ j < 2 ^ 53 := by
    rw [show 53 = m.log2 + 1 + j by omega, Nat.pow_add]
    exact Nat.mul_lt_mul_of_pos_right hhigh (Nat.two_pow_pos j)
  refine ⟨m * 2 ^ j, e - j, ⟨by omega, hwidth, ?_, Or.inr hfull⟩, ?_, ?_⟩
  · rw [Format.leastExponent_double]
    omega
  · show m * 2 ^ j + (e - j - (-1074)).toNat * 2 ^ 52 < 2047 * 2 ^ 52
    omega
  · push_cast
    rw [sub_eq_add_neg, two_zpow_add, zpow_neg, zpow_natCast]
    field_simp

/-- **A 32-bit number survives the way to 64 bits and back.** -/
theorem Single.toSingle_toDouble {x : Single} (h : x.datum.IsFinite) :
    x.toDouble.datum.IsFinite ∧ x.toDouble.toSingle = x := by
  obtain ⟨negative, m, e, hx⟩ := h
  obtain ⟨hbits, hinfinity, hc, hzero⟩ := Format.eq_of_decode x.bits.toNat_lt hx
  have hsign : Format.double.signOf negative ≤ 2 ^ 63 := by
    cases negative <;> decide
  have hback : Format.single.signOf negative + Format.single.bitsOf m e = x.bits.toNat →
      UInt32.ofNat (Format.single.signOf negative + Format.single.bitsOf m e) = x.bits := by
    intro h
    rw [h, UInt32.ofNat_toNat]
  unfold Double.toSingle Single.toDouble
  rw [hx]
  -- a zero has no significand of full width, so it goes its own way
  rcases Nat.eq_zero_or_pos m with rfl | hm
  · have hdouble : (Double.mk (UInt64.ofNat (Format.double.signOf negative))).datum
        = .finite negative 0 (-1074) := by
      rw [Double.datum_ofNat (by omega)]
      exact Format.decode_signOf (by decide) negative
    rw [Format.ofDatum_zero, hdouble, Format.ofDatum_zero]
    refine ⟨⟨_, _, _, rfl⟩, congrArg Single.mk ?_⟩
    rw [← hback hbits.symm, hzero rfl]
    simp [Format.bitsOf]
  · obtain ⟨M, E, hC, hM, hvalue⟩ := exists_double (hc hm) hinfinity
    have hlt : Format.double.bitsOf M E < 2047 * 2 ^ 52 := hM
    have hdouble : (Double.mk (UInt64.ofNat
          (Format.double.signOf negative + Format.double.bitsOf M E))).datum
        = .finite negative M E := by
      rw [Double.datum_ofNat (by omega)]
      exact Format.decode_bitsOf hC hM negative
    rw [Format.ofDatum_eq hC hM hvalue.symm, hdouble,
      Format.ofDatum_eq (hc hm) hinfinity hvalue]
    exact ⟨⟨_, _, _, rfl⟩, congrArg Single.mk (hback hbits.symm)⟩

end Horizon.Binary
