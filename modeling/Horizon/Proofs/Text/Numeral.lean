/-
  Horizon.Proofs.Text.Numeral
  ───────────────────────────
  **DECIMAL DIGITS READ BACK.**

  Every reader of digits in this library computes one and the same number on a text that
  holds nothing but digits, namely `Nat.ofDigitChars 10`.  Since `decimal n` is such a text
  and writes `n`, each reader takes `decimal n` back to `n`.
-/
import Horizon.Document.Toml.Scalar
import Horizon.Version

namespace Horizon.Text

open Horizon.Toml

/-! ## §1. Texts of digits. -/

/-- Nothing but decimal digits. -/
def AllDigits (text : List Char) : Prop :=
  ∀ c ∈ text, c.isDigit

theorem AllDigits.head {c : Char} {text : List Char} (h : AllDigits (c :: text)) : c.isDigit :=
  h c (by simp)

theorem AllDigits.tail {c : Char} {text : List Char} (h : AllDigits (c :: text)) :
    AllDigits text :=
  fun d hd => h d (by simp [hd])

theorem AllDigits.append {s t : List Char} (hs : AllDigits s) (ht : AllDigits t) :
    AllDigits (s ++ t) := by
  intro c hc
  rcases List.mem_append.mp hc with h | h
  · exact hs c h
  · exact ht c h

theorem allDigits_replicate_zero (n : Nat) : AllDigits (List.replicate n '0') := by
  intro c hc
  rw [List.eq_of_mem_replicate hc]
  rfl

theorem allDigits_decimal (n : Nat) : AllDigits (decimal n) :=
  fun _ hc => Nat.isDigit_of_mem_toDigits (by decide) (by decide) hc

theorem decimal_ne_nil (n : Nat) : decimal n ≠ [] :=
  Nat.toDigits_ne_nil

theorem isDigit_bounds {c : Char} (h : c.isDigit) : 48 ≤ c.toNat ∧ c.toNat ≤ 57 :=
  Char.isDigit_iff_toNat.mp h

/-- A digit is none of the characters that are no digits. -/
theorem ne_of_isDigit {c d : Char} (h : c.isDigit) (hd : d.isDigit = false) : c ≠ d := by
  rintro rfl
  rw [h] at hd
  exact absurd hd (by decide)

theorem digitValue?_of_isDigit {c : Char} (h : c.isDigit) :
    digitValue? 10 c = some (c.toNat - 48) := by
  obtain ⟨hl, hu⟩ := isDigit_bounds h
  unfold digitValue?
  simp only [hl, hu, decide_true, Bool.and_self, if_true]
  rw [if_pos (by omega)]

/-- Only digits have a decimal value. -/
theorem digitValue?_of_not_isDigit {c : Char} (h : c.isDigit = false) :
    digitValue? 10 c = none := by
  have hc : ¬(48 ≤ c.toNat ∧ c.toNat ≤ 57) := by
    intro hc
    rw [Char.isDigit_iff_toNat.mpr hc] at h
    exact absurd h (by decide)
  unfold digitValue?
  simp only [Bool.and_eq_true, decide_eq_true_eq, if_neg hc]
  -- a letter counts ten at least
  refine if_neg ?_
  split
  · omega
  · split <;> omega

/-- One more digit, added up the way the readers do. -/
theorem ofDigitChars_step (c : Char) (text : List Char) (value : Nat) :
    Nat.ofDigitChars 10 (c :: text) value
      = Nat.ofDigitChars 10 text (value * 10 + (c.toNat - 48)) := by
  rw [Nat.ofDigitChars_cons, Nat.mul_comm]
  rfl

theorem ofDigitChars_le (text : List Char) (value : Nat) :
    value ≤ Nat.ofDigitChars 10 text value := by
  induction text generalizing value with
  | nil => exact Nat.le_refl _
  | cons c text ih =>
      rw [ofDigitChars_step]
      exact Nat.le_trans (by omega) (ih _)

/-! ## §2. The readers. -/

theorem readDigits_of_allDigits {text : List Char} (h : AllDigits text) {limit value : Nat}
    (hl : Nat.ofDigitChars 10 text value ≤ limit) (e : NumeralError) :
    readDigits 10 limit e value text = .ok (Nat.ofDigitChars 10 text value) := by
  induction text generalizing value with
  | nil => rfl
  | cons c text ih =>
      rw [ofDigitChars_step] at hl ⊢
      -- the number only grows, so the limit holds at every digit if it does at the last
      have hle := ofDigitChars_le text (value * 10 + (c.toNat - 48))
      simp only [readDigits, digitValue?_of_isDigit h.head]
      rw [if_neg (by omega)]
      exact ih h.tail hl

/-- The values of the digits of a text. -/
def digitValues (text : List Char) : List Nat :=
  text.map fun c => c.toNat - 48

theorem digitValues_append (s t : List Char) :
    digitValues (s ++ t) = digitValues s ++ digitValues t :=
  List.map_append

theorem digitRun_of_allDigits {text : List Char} (hne : text ≠ []) (h : AllDigits text) :
    digitRun 10 text = some (digitValues text) := by
  induction text with
  | nil => exact absurd rfl hne
  | cons c text ih =>
      have hc := digitValue?_of_isDigit h.head
      cases text with
      | nil => simp [digitRun, hc, digitValues]
      | cons d text =>
          have hd : d ≠ '_' := ne_of_isDigit h.tail.head rfl
          have ih := ih (by simp) h.tail
          simp [digitRun, hc, hd, ih, digitValues]

/-- The digits of a text make the number that the text writes. -/
theorem digitsValue_digitValues (text : List Char) :
    digitsValue 10 (digitValues text) = Nat.ofDigitChars 10 text 0 := by
  simp only [digitsValue, digitValues, List.foldl_map, Nat.ofDigitChars_eq_foldl]
  refine congrArg (fun f => text.foldl f 0) ?_
  funext value c
  rw [Nat.mul_comm]
  rfl

/-- A text that holds a character other than a digit or an underscore is no run. -/
theorem digitRun_eq_none {text : List Char} {c : Char} (hc : c ∈ text)
    (hd : c.isDigit = false) (hu : c ≠ '_') : digitRun 10 text = none := by
  have hv : digitValue? 10 c = none := digitValue?_of_not_isDigit hd
  fun_induction digitRun 10 text with
  | case1 => simp at hc
  | case2 d => simp_all
  | case3 d rest ih =>
      rcases List.mem_cons.mp hc with rfl | hc
      · simp [hv]
      · rcases List.mem_cons.mp hc with rfl | hc
        · exact absurd rfl hu
        · simp [ih hc]
  | case4 d rest h₁ h₂ ih =>
      rcases List.mem_cons.mp hc with rfl | hc
      · simp [hv]
      · simp [ih hc]

/-! ## §3. Leading digits. -/

/-- A positive number does not start with a zero. -/
theorem head_decimal {n : Nat} (h : 0 < n) : ∃ c rest, decimal n = c :: rest ∧ 49 ≤ c.toNat := by
  induction n using Nat.strongRecOn with
  | ind n ih =>
      by_cases hn : n < 10
      · refine ⟨n.digitChar, [], Nat.toDigits_of_lt_base hn, ?_⟩
        rw [Nat.toNat_digitChar_of_lt_ten hn]
        omega
      · obtain ⟨c, rest, hc, hc'⟩ := ih (n / 10) (by omega) (by omega)
        refine ⟨c, rest ++ [(n % 10).digitChar], ?_, hc'⟩
        have := Nat.toDigits_of_base_le (b := 10) (n := n) (by decide) (by omega)
        unfold decimal at hc ⊢
        rw [this, hc]
        rfl

/-- Digits that do not start with a zero are the digits of a whole number. -/
theorem wholeRun_of_head {c : Char} {rest : List Char} (h : AllDigits (c :: rest))
    (hc : 49 ≤ c.toNat ∨ rest = []) : wholeRun (c :: rest) = some (digitValues (c :: rest)) := by
  have hrun : digitRun 10 (c :: rest) = _ := digitRun_of_allDigits (by simp) h
  unfold wholeRun
  rw [hrun]
  rcases hc with hc | rfl
  · have hhead : ¬c.toNat - 48 = 0 := by omega
    simp [digitValues, hhead]
  · simp [digitValues]

/-- Digits of a positive number, and any that follow them, are the digits of a whole
number. -/
theorem wholeRun_decimal_append {n : Nat} (h : 0 < n) {text : List Char} (ht : AllDigits text) :
    wholeRun (decimal n ++ text) = some (digitValues (decimal n ++ text)) := by
  obtain ⟨c, rest, hc, hc'⟩ := head_decimal h
  have hall := (allDigits_decimal n).append ht
  rw [hc, List.cons_append] at hall ⊢
  exact wholeRun_of_head hall (Or.inl hc')

/-- **Whole numbers read back**, zero included. -/
theorem wholeRun_decimal (n : Nat) : wholeRun (decimal n) = some (digitValues (decimal n)) := by
  rcases Nat.eq_zero_or_pos n with rfl | h
  · rfl
  · have hnil : AllDigits [] := fun c hc => absurd hc (by simp)
    simpa using wholeRun_decimal_append h hnil

theorem digitsValue_decimal (n : Nat) : digitsValue 10 (digitValues (decimal n)) = n := by
  rw [digitsValue_digitValues]
  exact Nat.ofDigitChars_ten_toDigits

end Horizon.Text
