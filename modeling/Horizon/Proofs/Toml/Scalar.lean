/-
  Horizon.Proofs.Toml.Scalar
  ──────────────────────────
  **SCALARS IN TOML READ BACK.**

  A scalar without quotes is one word.  A number is a word of digits and points behind an
  optional minus, so it has neither the dashes of a date nor the colons of a time, and it
  is no other word either.
-/
import Horizon.Proofs.Toml.Number

namespace Horizon.Toml

open Binary Text

/-! ## §1. Words. -/

/-- No word goes on into the text. -/
def EndsWord (rest : List Char) : Prop :=
  ∀ c tail, rest = c :: tail → isWordChar c = false

theorem takeWhile_word {word rest : List Char} (hw : ∀ c ∈ word, isWordChar c)
    (hr : EndsWord rest) : (word ++ rest).takeWhile isWordChar = word := by
  rw [List.takeWhile_append_of_pos hw]
  cases rest with
  | nil => simp
  | cons c rest => simp [hr c rest rfl]

theorem dropWhile_word {word rest : List Char} (hw : ∀ c ∈ word, isWordChar c)
    (hr : EndsWord rest) : (word ++ rest).dropWhile isWordChar = rest := by
  rw [List.dropWhile_append_of_pos hw]
  cases rest with
  | nil => simp
  | cons c rest => simp [hr c rest rfl]

/-- A word that is no date is read on its own. -/
theorem readScalar_word {word rest : List Char} (hw : ∀ c ∈ word, isWordChar c)
    (hr : EndsWord rest) (hd : afterDate word = none) :
    readScalar (word ++ rest) = (scalar? word).map fun value => (value, rest) := by
  unfold readScalar
  simp only [takeWhile_word hw hr, dropWhile_word hw hr, hd]
  rfl

/-! ## §2. Dates and times. -/

theorem mem_of_fixedDigits {count value result : Nat} {word rest : List Char}
    (h : fixedDigits count value word = some (result, rest)) : ∀ c ∈ rest, c ∈ word := by
  induction count generalizing value word with
  | zero =>
      simp only [fixedDigits, Option.some.injEq, Prod.mk.injEq] at h
      rw [h.2]
      exact fun c hc => hc
  | succ count ih =>
      cases word with
      | nil => simp [fixedDigits] at h
      | cons d word =>
          simp only [fixedDigits, bind, Option.bind] at h
          split at h
          · cases h
          · exact fun c hc => List.mem_cons_of_mem d (ih h c hc)

theorem expect_eq_none {c : Char} {word : List Char} (h : c ∉ word) :
    afterDate.expect c word = none := by
  cases word with
  | nil => rfl
  | cons d word =>
      have hd : d ≠ c := fun e => h (by simp [e])
      simp [afterDate.expect, hd]

/-- No date is without dashes behind the year. -/
theorem afterDate_eq_none {word : List Char} (h : '-' ∉ word.tail) : afterDate word = none := by
  unfold afterDate
  cases hyear : fixedDigits 4 0 word with
  | none => rfl
  | some year =>
      obtain ⟨year, rest⟩ := year
      -- the first digit is no dash, so a dash behind the year is in the tail of the word
      have hdash : '-' ∉ rest := by
        cases word with
        | nil => simp [fixedDigits] at hyear
        | cons c word =>
            simp only [fixedDigits, bind, Option.bind] at hyear
            split at hyear
            · cases hyear
            · exact fun hc => h (mem_of_fixedDigits hyear _ hc)
      simp [bind, Option.bind, expect_eq_none hdash]

/-- No time is without colons. -/
theorem afterTime_eq_none {word : List Char} (h : ':' ∉ word) : afterTime word = none := by
  unfold afterTime afterMinutes
  cases hhour : fixedDigits 2 0 word with
  | none => rfl
  | some hour =>
      obtain ⟨hour, rest⟩ := hour
      have hcolon : ':' ∉ rest := fun hc => h (mem_of_fixedDigits hhour _ hc)
      simp [bind, Option.bind, expect_eq_none hcolon]

theorem isTimestamp_eq_false {word : List Char} (hd : '-' ∉ word.tail) (ht : ':' ∉ word) :
    isTimestamp word = false := by
  unfold isTimestamp
  rw [afterDate_eq_none hd, afterTime_eq_none ht]
  rfl

/-! ## §3. Numbers. -/

/-- Digits and points behind an optional minus. -/
structure Numeric (word : List Char) : Prop where
  ne_nil : word ≠ []
  chars : ∀ c ∈ word, c.isDigit ∨ c = '.' ∨ c = '-'
  dash : '-' ∉ word.tail

theorem numeric_signChars {negative : Bool} {body : List Char} (hne : body ≠ [])
    (h : ∀ c ∈ body, c.isDigit ∨ c = '.') : Numeric (signChars negative ++ body) := by
  have hdash : '-' ∉ body := by
    intro hc
    rcases h _ hc with hd | hd <;> exact absurd hd (by decide)
  refine ⟨by simp [hne], ?_, ?_⟩
  · intro c hc
    rcases List.mem_append.mp hc with hc | hc
    · have : c = '-' := by
        cases negative <;> simp [signChars] at hc
        exact hc
      exact Or.inr (Or.inr this)
    · rcases h c hc with hd | hd
      · exact Or.inl hd
      · exact Or.inr (Or.inl hd)
  · cases negative with
    | false => exact fun hc => hdash (List.mem_of_mem_tail hc)
    | true => exact hdash

theorem Numeric.not_mem {word : List Char} (h : Numeric word) {c : Char}
    (hc : c.isDigit = false ∧ c ≠ '.' ∧ c ≠ '-') : c ∉ word := by
  intro hm
  rcases h.chars c hm with hd | hd | hd
  · rw [hc.1] at hd
    exact absurd hd (by decide)
  · exact hc.2.1 hd
  · exact hc.2.2 hd

theorem Numeric.isWordChar {word : List Char} (h : Numeric word) :
    ∀ c ∈ word, isWordChar c := by
  intro c hc
  rcases h.chars c hc with hd | rfl | rfl
  · simp [Toml.isWordChar, Char.isAlphanum, hd]
  · rfl
  · rfl

/-- A number is no truth value, date or time. -/
theorem scalar?_numeric {word : List Char} (h : Numeric word) :
    scalar? word = match integer? word with
      | some value => some (.integer value)
      | none => ((decimalNumber? word).or (specialNumber? word)).map .double := by
  have htrue : word ≠ "true".toList :=
    fun e => h.not_mem (c := 't') (by decide) (by rw [e]; decide)
  have hfalse : word ≠ "false".toList :=
    fun e => h.not_mem (c := 'f') (by decide) (by rw [e]; decide)
  unfold scalar?
  rw [if_neg htrue, if_neg hfalse, isTimestamp_eq_false h.dash (h.not_mem (by decide))]
  rfl

/-- A number is read in decimal. -/
theorem integer?_numeric {word : List Char} (h : Numeric word) {negative : Bool}
    {rest : List Char} (hs : splitSign word = (negative, rest)) :
    integer? word = (wholeRun rest).bind fun digits =>
      if negative then
        if digitsValue 10 digits ≤ 2 ^ 63 then some (-(digitsValue 10 digits : Int)) else none
      else if digitsValue 10 digits < 2 ^ 63 then some (digitsValue 10 digits : Int) else none := by
  unfold integer?
  split
  · exact absurd (by simp) (h.not_mem (c := 'x') (by decide))
  · exact absurd (by simp) (h.not_mem (c := 'o') (by decide))
  · exact absurd (by simp) (h.not_mem (c := 'b') (by decide))
  · rw [hs]
    rfl

theorem signedDecimal_eq (i : Int) :
    signedDecimal i = signChars (decide (i < 0)) ++ decimal i.natAbs := by
  cases i with
  | ofNat n => rfl
  | negSucc n => simp [signedDecimal, signChars, Int.negSucc_lt_zero]

/-- **Whole numbers of 64 bits read back.** -/
theorem readScalar_integer {i : Int} (hl : -2 ^ 63 ≤ i) (hu : i < 2 ^ 63) {rest : List Char}
    (hr : EndsWord rest) :
    readScalar (signedDecimal i ++ rest) = some (.integer i, rest) := by
  have hall := allDigits_decimal i.natAbs
  obtain ⟨c, digits, hdigits⟩ : ∃ c digits, decimal i.natAbs = c :: digits :=
    List.exists_cons_of_ne_nil (decimal_ne_nil _)
  have hnumeric : Numeric (signedDecimal i) := by
    rw [signedDecimal_eq]
    exact numeric_signChars (decimal_ne_nil _) fun c hc => Or.inl (hall c hc)
  have hsign : splitSign (signedDecimal i) = (decide (i < 0), decimal i.natAbs) := by
    rw [signedDecimal_eq, hdigits]
    exact splitSign_signChars _ (hall c (by rw [hdigits]; simp)) digits
  have hvalue : integer? (signedDecimal i) = some i := by
    rw [integer?_numeric hnumeric hsign, wholeRun_decimal, Option.bind_some, digitsValue_decimal]
    -- the least number is one further from zero than the greatest
    by_cases hneg : i < 0
    · rw [if_pos (by simpa using hneg), if_pos (by omega)]
      exact congrArg some (by omega)
    · rw [if_neg (by simpa using hneg), if_pos (by omega)]
      exact congrArg some (by omega)
  rw [readScalar_word hnumeric.isWordChar hr (afterDate_eq_none hnumeric.dash),
    scalar?_numeric hnumeric, hvalue]
  rfl

/-- **Floating-point numbers read back.** -/
theorem readScalar_double {x : Double} (h : x.datum.IsFinite) {rest : List Char}
    (hr : EndsWord rest) :
    readScalar ((numberStyle.text .double x.datum).toList ++ rest) = some (.double x, rest) := by
  obtain ⟨negative, d, whole, fraction, hwritten, htext, hvalue⟩ := exists_shown h
  obtain ⟨c, digits, hdigits⟩ : ∃ c digits, whole = c :: digits :=
    List.exists_cons_of_ne_nil hwritten.whole_ne_nil
  have hwhole := hwritten.wholeDigits
  have hfraction := hwritten.fractionDigits
  -- the last reader that is tried takes the number
  have hread : decimalNumber? (signChars negative ++ (whole ++ '.' :: fraction)) = some x := by
    obtain ⟨_, _, _, hx⟩ := h
    rw [decimalNumber?_written hwritten]
    simp only [hvalue, hx]
    rw [if_neg (by simp)]
  rw [htext]
  have hnumeric : Numeric (signChars negative ++ (whole ++ '.' :: fraction)) := by
    refine numeric_signChars (by simp) fun c hc => ?_
    rw [List.mem_append, List.mem_cons] at hc
    rcases hc with hc | rfl | hc
    · exact Or.inl (hwhole c hc)
    · exact Or.inr rfl
    · exact Or.inl (hfraction c hc)
  have hsign : splitSign (signChars negative ++ (whole ++ '.' :: fraction))
      = (negative, whole ++ '.' :: fraction) := by
    rw [hdigits]
    exact splitSign_signChars _ (hwhole c (by rw [hdigits]; simp)) _
  -- and the one before it does not, because of the point
  have hpoint : wholeRun (whole ++ '.' :: fraction) = none := by
    unfold wholeRun
    rw [digitRun_eq_none (c := '.') (by simp) (by decide) (by decide)]
    rfl
  have hinteger : integer? (signChars negative ++ (whole ++ '.' :: fraction)) = none := by
    rw [integer?_numeric hnumeric hsign, hpoint]
    rfl
  rw [readScalar_word hnumeric.isWordChar hr (afterDate_eq_none hnumeric.dash),
    scalar?_numeric hnumeric, hinteger, hread]
  rfl

/-- **Truth values read back.** -/
theorem readScalar_boolean (value : Bool) {rest : List Char} (hr : EndsWord rest) :
    readScalar ((if value then "true" else "false").toList ++ rest)
      = some (.boolean value, rest) := by
  cases value with
  | false =>
      have hword : ∀ c ∈ "false".toList, isWordChar c := List.all_eq_true.mp (by decide)
      show readScalar ("false".toList ++ rest) = _
      rw [readScalar_word hword hr (by decide)]
      rfl
  | true =>
      have hword : ∀ c ∈ "true".toList, isWordChar c := List.all_eq_true.mp (by decide)
      show readScalar ("true".toList ++ rest) = _
      rw [readScalar_word hword hr (by decide)]
      rfl

end Horizon.Toml
