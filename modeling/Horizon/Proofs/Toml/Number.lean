/-
  Horizon.Proofs.Toml.Number
  ──────────────────────────
  **FLOATING-POINT NUMBERS IN TOML READ BACK.**

  The writer shows the shortest digits of a number, always with a point.  The reader takes
  the digits on both sides of the point as one whole number, scales it by the places behind
  the point and rounds.  That whole number scaled is the decimal that was written, which
  lies in the neighbourhood of the number, so rounding gives its bits again.
-/
import Horizon.Document.Toml.Writer
import Horizon.Proofs.Binary.Shortest
import Mathlib.Data.List.TakeWhile

namespace Horizon.Toml

open Binary Text

/-! ## §1. Digits around a point. -/

/-- Digits on both sides of a point that make a decimal together. -/
structure Written (d : Decimal) (whole fraction : List Char) : Prop where
  wholeDigits : AllDigits whole
  fractionDigits : AllDigits fraction
  fraction_ne_nil : fraction ≠ []
  /-- No zero stands in front of others. -/
  canonical : wholeRun whole = some (digitValues whole)
  value : (Nat.ofDigitChars 10 (whole ++ fraction) 0 : ℚ) * 10 ^ (-(fraction.length : Int))
    = d.value

theorem ofDigitChars_zeros (n : Nat) (text : List Char) :
    Nat.ofDigitChars 10 (List.replicate n '0' ++ text) 0 = Nat.ofDigitChars 10 text 0 := by
  rw [Nat.ofDigitChars_append, Nat.ofDigitChars_replicate_zero, Nat.mul_zero]

/-- A whole number shows a zero behind the point. -/
theorem written_of_nonneg {d : Decimal} (hd : 0 < d.coefficient ∨ d.exponent = 0)
    (he : 0 ≤ d.exponent) :
    Written d (decimal d.coefficient ++ List.replicate d.exponent.toNat '0') ['0'] where
  wholeDigits := (allDigits_decimal _).append (allDigits_replicate_zero _)
  fractionDigits := allDigits_replicate_zero 1
  fraction_ne_nil := by simp
  canonical := by
    rcases hd with hd | hd
    · exact wholeRun_decimal_append hd (allDigits_replicate_zero _)
    · rw [hd]
      simpa using wholeRun_decimal d.coefficient
  value := by
    have hzeros : List.replicate d.exponent.toNat '0' ++ ['0']
        = List.replicate (d.exponent.toNat + 1) '0' := by
      rw [List.replicate_succ']
    have hdigits : Nat.ofDigitChars 10 (decimal d.coefficient) 0 = d.coefficient :=
      Nat.ofDigitChars_ten_toDigits
    rw [List.append_assoc, hzeros, Nat.ofDigitChars_append, hdigits,
      Nat.ofDigitChars_replicate_zero]
    unfold Decimal.value
    rw [ten_zpow_eq d.exponent, if_pos he]
    push_cast
    simp only [List.length_singleton, Nat.cast_one, zpow_neg, zpow_one, pow_succ]
    field_simp

/-- The digits in front of a point with so many places behind it. -/
def beforePoint (digits : List Char) (places : Nat) : List Char :=
  let whole := digits.take (digits.length - places)
  if whole.isEmpty then ['0'] else whole

/-- The digits behind it; zeros are filled in. -/
def behindPoint (digits : List Char) (places : Nat) : List Char :=
  let fraction := digits.drop (digits.length - places)
  List.replicate (places - fraction.length) '0' ++ fraction

theorem length_behindPoint (digits : List Char) (places : Nat) :
    (behindPoint digits places).length = places := by
  unfold behindPoint
  simp only [List.length_append, List.length_replicate, List.length_drop]
  omega

theorem allDigits_beforePoint {digits : List Char} (h : AllDigits digits) (places : Nat) :
    AllDigits (beforePoint digits places) := by
  intro c hc
  unfold beforePoint at hc
  dsimp only at hc
  split at hc
  · exact allDigits_replicate_zero 1 c hc
  · exact h c (List.mem_of_mem_take hc)

theorem allDigits_behindPoint {digits : List Char} (h : AllDigits digits) (places : Nat) :
    AllDigits (behindPoint digits places) :=
  (allDigits_replicate_zero _).append fun c hc => h c (List.mem_of_mem_drop hc)

/-- Every digit stands behind the point. -/
theorem beforePoint_short {digits : List Char} {places : Nat} (h : digits.length ≤ places) :
    beforePoint digits places = ['0'] := by
  simp [beforePoint, Nat.sub_eq_zero_of_le h]

/-- The point splits the digits. -/
theorem beforePoint_long {digits : List Char} {places : Nat} (h : places < digits.length) :
    beforePoint digits places = digits.take (digits.length - places) := by
  have hne : (digits.take (digits.length - places)).isEmpty = false := by
    rw [List.isEmpty_eq_false_iff, ← List.length_pos_iff, List.length_take]
    omega
  simp [beforePoint, hne]

/-- Apart from zeros in front, moving the point keeps the digits. -/
theorem ofDigitChars_point (digits : List Char) (places : Nat) :
    Nat.ofDigitChars 10 (beforePoint digits places ++ behindPoint digits places) 0
      = Nat.ofDigitChars 10 digits 0 := by
  by_cases h : digits.length ≤ places
  · have hbehind : digits.drop (digits.length - places) = digits := by
      simp [Nat.sub_eq_zero_of_le h]
    rw [beforePoint_short h, behindPoint, hbehind]
    exact ofDigitChars_zeros (places - digits.length + 1) digits
  · have hpad : places - (digits.drop (digits.length - places)).length = 0 := by
      rw [List.length_drop]
      omega
    rw [beforePoint_long (not_le.mp h), behindPoint, hpad, List.replicate_zero,
      List.nil_append, List.take_append_drop]

/-- The digits in front of a point never start with a zero before others. -/
theorem wholeRun_beforePoint {places : Nat} (hp : 0 < places) (n : Nat) :
    wholeRun (beforePoint (decimal n) places)
      = some (digitValues (beforePoint (decimal n) places)) := by
  by_cases h : (decimal n).length ≤ places
  · rw [beforePoint_short h]
    rfl
  · have hlong : places < (decimal n).length := not_le.mp h
    have hpos : 0 < n := by
      refine Nat.pos_of_ne_zero fun h0 => ?_
      rw [h0] at hlong
      have hone : (decimal 0).length = 1 := by decide
      omega
    obtain ⟨c, rest, hc, hc'⟩ := head_decimal hpos
    obtain ⟨k, hk⟩ : ∃ k, (decimal n).length - places = k + 1 :=
      ⟨(decimal n).length - places - 1, by omega⟩
    have hall := allDigits_beforePoint (allDigits_decimal n) places
    rw [beforePoint_long hlong, hk, hc, List.take_succ_cons] at hall ⊢
    exact wholeRun_of_head hall (Or.inl hc')

/-- A point falls within the digits, or zeros are filled in between it and them. -/
theorem written_of_neg {d : Decimal} {places : Nat} (hp : 0 < places)
    (he : d.exponent = -(places : Int)) :
    Written d (beforePoint (decimal d.coefficient) places)
      (behindPoint (decimal d.coefficient) places) where
  wholeDigits := allDigits_beforePoint (allDigits_decimal _) places
  fractionDigits := allDigits_behindPoint (allDigits_decimal _) places
  fraction_ne_nil := by
    rw [← List.length_pos_iff, length_behindPoint]
    exact hp
  canonical := wholeRun_beforePoint hp d.coefficient
  value := by
    have hdigits : Nat.ofDigitChars 10 (decimal d.coefficient) 0 = d.coefficient :=
      Nat.ofDigitChars_ten_toDigits
    rw [ofDigitChars_point, length_behindPoint, hdigits, Decimal.value, he]

/-- **The digits of a decimal show it**, wherever the point falls. -/
theorem exists_written {d : Decimal} (hd : 0 < d.coefficient ∨ d.exponent = 0) :
    ∃ whole fraction, numberStyle.positionalText d = whole ++ '.' :: fraction ∧
      Written d whole fraction := by
  by_cases he : 0 ≤ d.exponent
  · refine ⟨_, _, ?_, written_of_nonneg hd he⟩
    unfold Style.positionalText
    simp [he, numberStyle, decimal]
  · refine ⟨_, _, ?_, @written_of_neg d (-d.exponent).toNat (by omega) (by omega)⟩
    unfold Style.positionalText
    simp only [if_neg he]
    rfl

/-! ## §2. Reading a number. -/

/-- The sign of a number as text. -/
def signChars (negative : Bool) : List Char := if negative then ['-'] else []

theorem splitSign_signChars (negative : Bool) {c : Char} (hc : c.isDigit) (rest : List Char) :
    splitSign (signChars negative ++ c :: rest) = (negative, c :: rest) := by
  have hminus : c ≠ '-' := ne_of_isDigit hc rfl
  have hplus : c ≠ '+' := ne_of_isDigit hc rfl
  cases negative with
  | false => simp [signChars, splitSign, hminus, hplus]
  | true => rfl

theorem cut_eq_none {test : Char → Bool} {word : List Char} (h : ∀ c ∈ word, test c = false) :
    cut test word = (word, none) := by
  have hdrop : word.dropWhile (!test ·) = [] := by
    rw [List.dropWhile_eq_nil_iff]
    exact fun c hc => by simp [h c hc]
  unfold cut
  rw [hdrop]

theorem cut_append {test : Char → Bool} {part : List Char} (h : ∀ c ∈ part, test c = false)
    {c : Char} (hc : test c) (rest : List Char) :
    cut test (part ++ c :: rest) = (part, some rest) := by
  have hpart : ∀ d ∈ part, (!test d) = true := fun d hd => by simp [h d hd]
  unfold cut
  rw [List.dropWhile_append_of_pos hpart, List.takeWhile_append_of_pos hpart]
  simp [hc]

theorem Written.whole_ne_nil {d : Decimal} {whole fraction : List Char}
    (h : Written d whole fraction) : whole ≠ [] := by
  intro hw
  have hcanonical := h.canonical
  rw [hw] at hcanonical
  cases hcanonical

/-- What the reader makes of digits around a point. -/
theorem decimalNumber?_written {d : Decimal} {whole fraction : List Char}
    (h : Written d whole fraction) (negative : Bool) :
    decimalNumber? (signChars negative ++ (whole ++ '.' :: fraction))
      = let number := Double.ofDecimal negative (Nat.ofDigitChars 10 (whole ++ fraction) 0)
          (-(fraction.length : Int))
        if number.datum = .infinite false then none else some number := by
  obtain ⟨c, rest, hwhole⟩ : ∃ c rest, whole = c :: rest :=
    List.exists_cons_of_ne_nil h.whole_ne_nil
  have hsign := splitSign_signChars negative (h.wholeDigits c (by rw [hwhole]; simp))
    (rest ++ '.' :: fraction)
  rw [← List.cons_append, ← hwhole] at hsign
  have hexponent : cut (fun c => c = 'e' || c = 'E') (whole ++ '.' :: fraction)
      = (whole ++ '.' :: fraction, none) := by
    refine cut_eq_none fun c hc => ?_
    have hdigit : ∀ c : Char, c.isDigit → (decide (c = 'e') || decide (c = 'E')) = false := by
      intro c hc
      simp [ne_of_isDigit hc (d := 'e') rfl, ne_of_isDigit hc (d := 'E') rfl]
    rw [List.mem_append, List.mem_cons] at hc
    rcases hc with hc | rfl | hc
    · exact hdigit c (h.wholeDigits c hc)
    · rfl
    · exact hdigit c (h.fractionDigits c hc)
  have hpoint : cut (· = '.') (whole ++ '.' :: fraction) = (whole, some fraction) := by
    refine cut_append (fun c hc => ?_) (by decide) fraction
    exact decide_eq_false (ne_of_isDigit (h.wholeDigits c hc) rfl)
  -- with sign, exponent and point found, both runs of digits are read as they stand
  have hrun := digitRun_of_allDigits h.fraction_ne_nil h.fractionDigits
  have hlength : (digitValues fraction).length = fraction.length := List.length_map _
  unfold decimalNumber?
  simp only [hsign, hexponent, hpoint, h.canonical, hrun, ← digitValues_append,
    digitsValue_digitValues, hlength, Option.isNone_some, Option.isNone_none, Bool.false_and,
    Bool.false_eq_true, if_false, bind, Option.bind, Int.zero_sub]

/-! ## §3. Rounding what was read. -/

/-- Powers of two and of ten, upwards and downwards. -/
theorem two_pow_lt_ten_pow {n : Nat} (hn : n ≠ 0) :
    (2 : ℚ) ^ (n : Int) < 10 ^ (n : Int) ∧ (10 : ℚ) ^ (-(n : Int)) < 2 ^ (-(n : Int)) := by
  have h : (2 : ℚ) ^ n < 10 ^ n := pow_lt_pow_left₀ (by norm_num) (by norm_num) hn
  simp only [zpow_neg, zpow_natCast]
  exact ⟨h, inv_strictAnti₀ (by positivity) h⟩

/-- The number of digits and the exponent tell between which powers of ten a decimal is. -/
theorem decimal_bounds {coefficient : Nat} (h : 0 < coefficient) (exponent : Int) :
    (10 : ℚ) ^ (((Nat.toDigits 10 coefficient).length : Int) - 1 + exponent)
        ≤ coefficient * 10 ^ exponent ∧
      (coefficient : ℚ) * 10 ^ exponent
        < 10 ^ (((Nat.toDigits 10 coefficient).length : Int) + exponent) := by
  have hlength := @Nat.length_toDigits_pos 10 coefficient
  have hten := ten_zpow_pos exponent
  have hleast : (10 : ℚ) ^ (((Nat.toDigits 10 coefficient).length : Int) - 1)
      ≤ coefficient := by
    rw [show ((Nat.toDigits 10 coefficient).length : Int) - 1
        = (((Nat.toDigits 10 coefficient).length - 1 : Nat) : Int) by omega, zpow_natCast]
    exact_mod_cast pow_length_le h
  have hmost : (coefficient : ℚ) < 10 ^ ((Nat.toDigits 10 coefficient).length : Int) := by
    rw [zpow_natCast]
    exact_mod_cast lt_pow_length coefficient
  rw [zpow_add₀ (by norm_num), zpow_add₀ (by norm_num)]
  exact ⟨mul_le_mul_of_nonneg_right hleast hten.le, mul_lt_mul_of_pos_right hmost hten⟩

/-- Neighbourhoods of positive numbers stay between these powers of two. -/
theorem neighbourhood_bounds {m : Nat} {e : Int} (hc : Format.double.Canonical m e)
    (hm : Format.double.bitsOf m e < Format.double.infinityBits) :
    (2 : ℚ) ^ (-((1076 : Nat) : Int)) ≤ (4 * m - 2) * 2 ^ (e - 2) ∧
      ((4 * m + 2) * 2 ^ (e - 2) : ℚ) ≤ 2 ^ ((1026 : Nat) : Int) := by
  have hu := two_zpow_pos (e - 2)
  have hone : (1 : ℚ) ≤ m := by exact_mod_cast hc.positive
  have hbounded : (m : ℚ) + 1 ≤ 2 ^ 53 := by exact_mod_cast hc.bounded
  have hleast : -1074 ≤ e := hc.least
  have hmost : e ≤ 972 := by
    have : m + (e - (-1074)).toNat * 2 ^ 52 < 2047 * 2 ^ 52 := hm
    omega
  constructor
  · calc (2 : ℚ) ^ (-((1076 : Nat) : Int)) ≤ 2 ^ (e - 2) := two_zpow_le (by omega)
      _ ≤ (4 * m - 2) * 2 ^ (e - 2) := le_mul_of_one_le_left hu.le (by linarith)
  · calc ((4 * m + 2) * 2 ^ (e - 2) : ℚ) ≤ 2 ^ 55 * 2 ^ (e - 2) :=
          mul_le_mul_of_nonneg_right (by norm_num at hbounded ⊢; linarith) hu.le
      _ = 2 ^ (((55 : Nat) : Int) + (e - 2)) := two_pow_mul_zpow 55 (e - 2)
      _ ≤ 2 ^ ((1026 : Nat) : Int) := two_zpow_le (by omega)

/-- A decimal in the neighbourhood of a number has about as many digits as any number of
the format. -/
theorem magnitude_of_holds {m : Nat} {e : Int} (hc : Format.double.Canonical m e)
    (hm : Format.double.bitsOf m e < Format.double.infinityBits) {coefficient : Nat}
    {exponent : Int}
    (h : (Format.double.neighbourhood m e).Holds (coefficient * 10 ^ exponent)) :
    0 < coefficient ∧ (Nat.toDigits 10 coefficient).length + exponent ≤ 2048 ∧
      -2048 ≤ (Nat.toDigits 10 coefficient).length + exponent := by
  obtain ⟨hbelow, habove⟩ := neighbourhood_bounds hc hm
  have hlow := hbelow.trans (Format.holds_ge h hc.positive)
  have hhigh := (Format.holds_le h).trans habove
  have hcoefficient : 0 < coefficient := by
    rcases Nat.eq_zero_or_pos coefficient with rfl | hpos
    · rw [Nat.cast_zero, zero_mul] at hlow
      exact absurd hlow (not_le.mpr (two_zpow_pos _))
    · exact hpos
  obtain ⟨hleast, hmost⟩ := decimal_bounds hcoefficient exponent
  refine ⟨hcoefficient, ?_, ?_⟩
  · -- a number with more digits would lie above the neighbourhood
    by_contra hlt
    have hdigits : (10 : ℚ) ^ ((1026 : Nat) : Int)
        ≤ 10 ^ (((Nat.toDigits 10 coefficient).length : Int) - 1 + exponent) :=
      zpow_le_zpow_right₀ (by norm_num) (by omega)
    have hbase := (two_pow_lt_ten_pow (show 1026 ≠ 0 by decide)).1
    exact absurd ((hdigits.trans hleast).trans hhigh) (not_le.mpr hbase)
  · -- a number with fewer digits would lie below it
    by_contra hlt
    have hdigits : (10 : ℚ) ^ (((Nat.toDigits 10 coefficient).length : Int) + exponent)
        ≤ 10 ^ (-((1076 : Nat) : Int)) :=
      zpow_le_zpow_right₀ (by norm_num) (by omega)
    have hbase := (two_pow_lt_ten_pow (show 1076 ≠ 0 by decide)).2
    exact absurd (hlow.trans (hmost.le.trans hdigits)) (not_le.mpr hbase)

/-- **A decimal in the neighbourhood of a number is read as that number.** -/
theorem ofDecimal_of_holds {m : Nat} {e : Int} (hc : Format.double.Canonical m e)
    (hm : Format.double.bitsOf m e < Format.double.infinityBits) {coefficient : Nat}
    {exponent : Int}
    (h : (Format.double.neighbourhood m e).Holds (coefficient * 10 ^ exponent)) (negative : Bool) :
    Format.double.ofDecimal negative coefficient exponent
      = Format.double.signOf negative + Format.double.bitsOf m e := by
  obtain ⟨hpos, hmost, hleast⟩ := magnitude_of_holds hc hm h
  have hpow := ten_zpow_eq exponent
  have hbound : (2 : Int) ^ Format.double.exponentBits = 2048 := by decide
  unfold Format.ofDecimal
  simp only [hbound]
  -- neither so large nor so small that the reader does not look at the digits
  rw [if_neg hpos.ne', if_neg (by omega), if_neg (by omega)]
  by_cases he : 0 ≤ exponent
  · rw [if_pos he] at hpow ⊢
    refine Format.round_of_ratio hc hm (Nat.mul_pos hpos (Nat.pow_pos (by decide)))
      Nat.one_pos ?_ h negative
    rw [hpow]
    push_cast
    ring
  · rw [if_neg he] at hpow ⊢
    refine Format.round_of_ratio hc hm hpos (Nat.pow_pos (by decide)) ?_ h negative
    rw [hpow]
    ring

/-- The decimal that stands for a number in its text. -/
def shownDecimal (significand : Nat) (exponent : Int) : Decimal :=
  if significand = 0 then ⟨0, 0⟩ else Format.double.shortest .up significand exponent

theorem toList_text (negative : Bool) (significand : Nat) (exponent : Int) :
    (numberStyle.text .double (.finite negative significand exponent)).toList
      = signChars negative ++ numberStyle.positionalText (shownDecimal significand exponent) := by
  cases negative <;>
    simp [Style.text, numberStyle, signChars, shownDecimal]

/-- The text of a number: digits on both sides of a point, and what they read as. -/
theorem exists_shown {x : Double} (h : x.datum.IsFinite) :
    ∃ negative d whole fraction, Written d whole fraction ∧
      (numberStyle.text .double x.datum).toList
        = signChars negative ++ (whole ++ '.' :: fraction) ∧
      Double.ofDecimal negative (Nat.ofDigitChars 10 (whole ++ fraction) 0)
        (-(fraction.length : Int)) = x := by
  obtain ⟨negative, m, e, hx⟩ := h
  obtain ⟨hbits, hinfinity, hc, hzero⟩ := Format.eq_of_decode x.bits.toNat_lt hx
  suffices hread : ∃ whole fraction, numberStyle.positionalText (shownDecimal m e)
      = whole ++ '.' :: fraction ∧ Written (shownDecimal m e) whole fraction ∧
      Format.double.ofDecimal negative (Nat.ofDigitChars 10 (whole ++ fraction) 0)
        (-(fraction.length : Int)) = x.bits.toNat by
    obtain ⟨whole, fraction, htext, hwritten, hvalue⟩ := hread
    refine ⟨negative, _, whole, fraction, hwritten, ?_, ?_⟩
    · rw [hx, toList_text, htext]
    · rw [Double.ofDecimal, hvalue, UInt64.ofNat_toNat]
  rcases Nat.eq_zero_or_pos m with rfl | hm
  · -- a zero keeps its sign
    have hshown : shownDecimal 0 e = ⟨0, 0⟩ := rfl
    rw [hshown]
    obtain ⟨whole, fraction, htext, hwritten⟩ := @exists_written ⟨0, 0⟩ (Or.inr rfl)
    refine ⟨whole, fraction, htext, hwritten, ?_⟩
    have hcoefficient : Nat.ofDigitChars 10 (whole ++ fraction) 0 = 0 := by
      have hvalue := hwritten.value
      have hten := ten_zpow_pos (-(fraction.length : Int))
      rw [Decimal.value, Nat.cast_zero, zero_mul, mul_eq_zero] at hvalue
      exact_mod_cast hvalue.resolve_right hten.ne'
    rw [hcoefficient, hbits, hzero rfl]
    unfold Format.ofDecimal Format.bitsOf Format.signOf
    simp
  · -- the shortest digits lie in the neighbourhood of the number
    have hshown : shownDecimal m e = Format.double.shortest .up m e := if_neg hm.ne'
    have hholds := shortest_holds (by decide) .up (hc hm)
    rw [← hshown] at hholds
    have hpositive : 0 < (shownDecimal m e).coefficient := by
      rw [Decimal.value] at hholds
      exact (magnitude_of_holds (hc hm) hinfinity hholds).1
    obtain ⟨whole, fraction, htext, hwritten⟩ := exists_written (Or.inl hpositive)
    refine ⟨whole, fraction, htext, hwritten, ?_⟩
    rw [← hwritten.value] at hholds
    rw [ofDecimal_of_holds (hc hm) hinfinity hholds, hbits]

end Horizon.Toml
