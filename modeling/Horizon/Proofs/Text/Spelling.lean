/-
  Horizon.Proofs.Text.Spelling
  ────────────────────────────
  **WHICH TEXTS SPELL WHICH NUMBERS.**

  A grammar of numerals, stated apart from the readers:

      Digits r text n      one digit of radix r after another; n is the number they write
      Unsigned r text n    such digits, with one plus sign in front of them or none
      Padded core text     the core, with any white space on either side

  The readers go from the left and stop at the first digit that takes them above their
  limit.  Numbers only grow that way, so they accept exactly the texts of the grammar
  whose number is within the limit, however many zeros it starts with.
-/
import Mathlib.Algebra.Group.Int.Defs
import Mathlib.Algebra.Group.Nat.Defs
import Mathlib.Data.List.Induction
import Mathlib.Data.List.TakeWhile
import Horizon.Proofs.Text.Numeral

namespace Horizon.Text

/-! ## §1. Digits. -/

/-- The character is the digit of a value; as a letter it counts in either case. -/
def IsDigitOf (radix : Nat) (c : Char) (value : Nat) : Prop :=
  value < radix ∧ (c = lowerHexDigit value ∨ c = upperHexDigit value)

/-- Digits of the radix, at least one, and the number that they write. -/
inductive Digits (radix : Nat) : List Char → Nat → Prop where
  | single {c : Char} {value : Nat} (digit : IsDigitOf radix c value) : Digits radix [c] value
  | append {text : List Char} {n : Nat} {c : Char} {value : Nat} (digits : Digits radix text n)
      (digit : IsDigitOf radix c value) : Digits radix (text ++ [c]) (n * radix + value)

/-- Digits, with one plus sign in front of them or none. -/
def Unsigned (radix : Nat) (text : List Char) (n : Nat) : Prop :=
  Digits radix text n ∨ ∃ digits, text = '+' :: digits ∧ Digits radix digits n

theorem toNat_ofNat_of_ascii {code : Nat} (h : code < 128) : (Char.ofNat code).toNat = code := by
  have valid : code.isValidChar := Or.inl (by omega)
  unfold Char.ofNat
  rw [dif_pos valid]
  rfl

/-- The code of a digit is that of a decimal digit or of a letter. -/
theorem IsDigitOf.code {radix value : Nat} {c : Char} (small : radix ≤ 36)
    (h : IsDigitOf radix c value) :
    value < 10 ∧ c.toNat = 48 + value ∨
      10 ≤ value ∧ (c.toNat = 55 + value ∨ c.toNat = 87 + value) := by
  obtain ⟨below, hc⟩ := h
  by_cases ten : value < 10
  · refine Or.inl ⟨ten, ?_⟩
    rcases hc with rfl | rfl
    · rw [lowerHexDigit, if_pos ten]
      exact toNat_ofNat_of_ascii (by omega)
    · rw [upperHexDigit, if_pos ten]
      exact toNat_ofNat_of_ascii (by omega)
  · refine Or.inr ⟨by omega, ?_⟩
    rcases hc with rfl | rfl
    · rw [lowerHexDigit, if_neg ten]
      exact Or.inr (toNat_ofNat_of_ascii (by omega))
    · rw [upperHexDigit, if_neg ten]
      exact Or.inl (toNat_ofNat_of_ascii (by omega))

/-- Reading a character gives the value of which it is the digit, if it is one. -/
theorem digitValue?_eq_some_iff {radix value : Nat} {c : Char} (small : radix ≤ 36) :
    digitValue? radix c = some value ↔ IsDigitOf radix c value := by
  constructor
  · intro h
    have same : Char.ofNat c.toNat = c := Char.ofNat_toNat c
    unfold digitValue? at h
    simp only [Option.ite_none_right_eq_some, Option.some.injEq, Bool.and_eq_true,
      decide_eq_true_eq] at h
    split at h
    · -- a decimal digit
      obtain ⟨below, rfl⟩ := h
      refine ⟨below, Or.inl ?_⟩
      rw [lowerHexDigit, if_pos (by omega), Nat.add_sub_cancel' (by omega), same]
    · split at h
      · -- a capital letter
        obtain ⟨below, rfl⟩ := h
        refine ⟨below, Or.inr ?_⟩
        rw [upperHexDigit, if_neg (by omega), Nat.add_sub_cancel' (by omega), same]
      · split at h
        · -- a small letter
          obtain ⟨below, rfl⟩ := h
          refine ⟨below, Or.inl ?_⟩
          rw [lowerHexDigit, if_neg (by omega), Nat.add_sub_cancel' (by omega), same]
        · omega
  · intro h
    have below := h.1
    have code := h.code small
    unfold digitValue?
    simp only [Option.ite_none_right_eq_some, Option.some.injEq, Bool.and_eq_true,
      decide_eq_true_eq]
    rcases code with ⟨ten, hc⟩ | ⟨ten, hc | hc⟩
    · rw [if_pos (by omega)]
      omega
    · rw [if_neg (by omega), if_pos (by omega)]
      omega
    · rw [if_neg (by omega), if_neg (by omega), if_pos (by omega)]
      omega

theorem Digits.ne_nil {radix n : Nat} {text : List Char} (h : Digits radix text n) :
    text ≠ [] := by
  cases h with
  | single => simp
  | append => simp

theorem Digits.of_mem {radix n : Nat} {text : List Char} (h : Digits radix text n) {c : Char}
    (hc : c ∈ text) : ∃ value, IsDigitOf radix c value := by
  induction h with
  | @single d value digit =>
      rw [List.mem_singleton] at hc
      subst hc
      exact ⟨value, digit⟩
  | @append text n d value _ digit ih =>
      rcases List.mem_append.mp hc with hc | hc
      · exact ih hc
      · rw [List.mem_singleton] at hc
        subst hc
        exact ⟨value, digit⟩

/-- A character that is no digit does not occur among digits. -/
theorem Digits.not_mem {radix n : Nat} {text : List Char} (h : Digits radix text n)
    (small : radix ≤ 36) {c : Char} (hc : digitValue? radix c = none) : c ∉ text := by
  intro hm
  obtain ⟨value, digit⟩ := h.of_mem hm
  rw [(digitValue?_eq_some_iff small).mpr digit] at hc
  cases hc

theorem Unsigned.not_mem {radix n : Nat} {text : List Char} (h : Unsigned radix text n)
    (small : radix ≤ 36) {c : Char} (hc : digitValue? radix c = none) (plus : c ≠ '+') :
    c ∉ text := by
  rcases h with digits | ⟨rest, rfl, digits⟩
  · exact digits.not_mem small hc
  · have clear := digits.not_mem small hc
    simp [plus, clear]

/-! ## §2. The readers accept the grammar. -/

/-- One more digit at the end. -/
theorem readDigits_concat_eq_ok_iff {radix limit start n : Nat} {overflow : NumeralError}
    {text : List Char} {c : Char} :
    readDigits radix limit overflow start (text ++ [c]) = .ok n ↔
      ∃ m value, readDigits radix limit overflow start text = .ok m ∧
        digitValue? radix c = some value ∧ n = m * radix + value ∧ n ≤ limit := by
  -- every digit in front changes what the reader starts from
  induction text generalizing start with
  | nil =>
      simp only [List.nil_append, readDigits, Except.ok.injEq]
      cases hc : digitValue? radix c with
      | none => simp
      | some value =>
          by_cases above : limit < start * radix + value
          · simp only [if_pos above]
            constructor
            · intro h
              cases h
            · rintro ⟨m, _, rfl, h, rfl, within⟩
              cases h
              omega
          · simp only [if_neg above, Except.ok.injEq]
            constructor
            · rintro rfl
              exact ⟨start, value, rfl, rfl, rfl, by omega⟩
            · rintro ⟨m, _, rfl, h, rfl, -⟩
              cases h
              rfl
  | cons d text ih =>
      simp only [List.cons_append, readDigits]
      cases digitValue? radix d with
      | none => simp
      | some first =>
          by_cases above : limit < start * radix + first
          · simp [if_pos above]
          · simp only [if_neg above]
            exact ih

/-- **Digits are read as the number that they write**, if it is within the limit. -/
theorem readDigits_eq_ok_iff {radix limit n : Nat} (small : radix ≤ 36)
    (overflow : NumeralError) {text : List Char} (ne : text ≠ []) :
    readDigits radix limit overflow 0 text = .ok n ↔ Digits radix text n ∧ n ≤ limit := by
  constructor
  · intro h
    induction text using List.reverseRecOn generalizing n with
    | nil => exact absurd rfl ne
    | append_singleton text c ih =>
        -- the reader has passed the digits in front, which the grammar takes off last
        obtain ⟨m, value, read, digit, rfl, within⟩ := readDigits_concat_eq_ok_iff.mp h
        rw [digitValue?_eq_some_iff small] at digit
        refine ⟨?_, within⟩
        by_cases first : text = []
        · subst first
          cases read
          rw [Nat.zero_mul, Nat.zero_add]
          exact .single digit
        · exact .append (ih first read).1 digit
  · rintro ⟨digits, within⟩
    induction digits with
    | @single c value digit =>
        have read := (digitValue?_eq_some_iff small).mpr digit
        have first : value = 0 * radix + value := by rw [Nat.zero_mul, Nat.zero_add]
        show readDigits radix limit overflow 0 ([] ++ [c]) = .ok value
        exact readDigits_concat_eq_ok_iff.mpr ⟨0, value, rfl, read, first, within⟩
    | @append text m c value digits digit ih =>
        -- what was read before the last digit is no more than what is read with it
        have grows : m * 1 ≤ m * radix := Nat.mul_le_mul_left m (by have := digit.1; omega)
        have read := ih digits.ne_nil (by omega)
        exact readDigits_concat_eq_ok_iff.mpr
          ⟨m, value, read, (digitValue?_eq_some_iff small).mpr digit, rfl, within⟩

theorem readMagnitude_eq_ok_iff {radix limit n : Nat} (small : radix ≤ 36)
    (overflow : NumeralError) {text : List Char} :
    readMagnitude radix limit overflow text = .ok n ↔ Digits radix text n ∧ n ≤ limit := by
  cases text with
  | nil =>
      constructor
      · intro h
        cases h
      · rintro ⟨digits, -⟩
        exact absurd rfl digits.ne_nil
  | cons c text => exact readDigits_eq_ok_iff small overflow (List.cons_ne_nil c text)

theorem digitValue?_plus (radix : Nat) : digitValue? radix '+' = none := by
  simp [digitValue?]

/-- **Unsigned numbers are read exactly as the grammar has them.** -/
theorem readUnsigned_eq_ok_iff {radix limit n : Nat} (small : radix ≤ 36) {text : List Char} :
    readUnsigned radix limit text = .ok n ↔ Unsigned radix text n ∧ n ≤ limit := by
  unfold readUnsigned
  split
  · -- the empty text
    constructor
    · intro h
      cases h
    · rintro ⟨digits | ⟨_, h, -⟩, -⟩
      · exact absurd rfl digits.ne_nil
      · cases h
  · -- a plus sign, which no digits start with
    rename_i rest
    rw [readMagnitude_eq_ok_iff small]
    constructor
    · rintro ⟨digits, within⟩
      exact ⟨Or.inr ⟨rest, rfl, digits⟩, within⟩
    · rintro ⟨digits | ⟨_, h, digits⟩, within⟩
      · exact absurd List.mem_cons_self (digits.not_mem small (digitValue?_plus radix))
      · cases h
        exact ⟨digits, within⟩
  · -- anything else
    rename_i ne unsigned
    rw [readDigits_eq_ok_iff small _ ne]
    constructor
    · rintro ⟨digits, within⟩
      exact ⟨Or.inl digits, within⟩
    · rintro ⟨digits | ⟨rest, h, -⟩, within⟩
      · exact ⟨digits, within⟩
      · exact absurd h (unsigned rest)

/-- Behind a minus sign there are only digits, and the number reaches one further down. -/
theorem readSigned_minus_eq_ok_iff {radix limit : Nat} (small : radix ≤ 36) {text : List Char}
    {i : Int} :
    readSigned radix limit ('-' :: text) = .ok i ↔
      ∃ n, Digits radix text n ∧ n ≤ limit + 1 ∧ i = -(n : Int) := by
  show (readMagnitude radix (limit + 1) .tooSmall text).map (fun n => -(n : Int)) = .ok i ↔ _
  constructor
  · intro h
    cases read : readMagnitude radix (limit + 1) .tooSmall text with
    | error e =>
        rw [read] at h
        cases h
    | ok n =>
        rw [read] at h
        cases h
        obtain ⟨digits, within⟩ := (readMagnitude_eq_ok_iff small _).mp read
        exact ⟨n, digits, within, rfl⟩
  · rintro ⟨n, digits, within, rfl⟩
    rw [(readMagnitude_eq_ok_iff small _).mpr ⟨digits, within⟩]
    rfl

/-- Decimal digits as they are written spell their number. -/
theorem digits_decimal (n : Nat) : Digits 10 (decimal n) n := by
  have value : Nat.ofDigitChars 10 (decimal n) 0 = n := Nat.ofDigitChars_ten_toDigits
  have read := readDigits_of_allDigits (allDigits_decimal n) (Nat.le_of_eq value) .tooLarge
  rw [value] at read
  exact ((readDigits_eq_ok_iff (by decide) .tooLarge (decimal_ne_nil n)).mp read).1

/-- Hexadecimal digits of a fixed width spell what of the number fits into that width. -/
theorem digits_fixedHex (width n : Nat) :
    Digits 16 (fixedHex upperHexDigit (width + 1) n) (n % 16 ^ (width + 1)) := by
  have last : ∀ n, IsDigitOf 16 (upperHexDigit (n % 16)) (n % 16) :=
    fun n => ⟨Nat.mod_lt n (by decide), Or.inr rfl⟩
  induction width generalizing n with
  | zero => exact .single (last n)
  | succ width ih =>
      have value : n % 16 ^ (width + 1 + 1) = n / 16 % 16 ^ (width + 1) * 16 + n % 16 := by
        rw [Nat.pow_succ', Nat.mod_mul]
        omega
      rw [value]
      exact .append (ih (n / 16)) (last n)

/-! ## §3. White space around a text. -/

/-- The core, with any white space on either side. -/
def Padded (core text : List Char) : Prop :=
  ∃ before after, (∀ c ∈ before, isBlank c) ∧ (∀ c ∈ after, isBlank c) ∧
    text = before ++ core ++ after

theorem padded_self (text : List Char) : Padded text text := by
  refine ⟨[], [], ?_, ?_, ?_⟩
  · simp
  · simp
  · simp

/-- Nothing is dropped off the front of a text without white space. -/
theorem dropWhile_isBlank_of_solid {text : List Char} (h : ∀ c ∈ text, isBlank c = false) :
    text.dropWhile isBlank = text := by
  cases text with
  | nil => rfl
  | cons c text => simp [h c List.mem_cons_self]

/-- What is trimmed off a text is white space. -/
theorem padded_trim (text : List Char) : Padded (trim text) text := by
  have front : text.takeWhile isBlank ++ trimStart text = text :=
    List.takeWhile_append_dropWhile
  have back : trimEnd (trimStart text) ++ ((trimStart text).reverse.takeWhile isBlank).reverse
      = trimStart text := by
    rw [trimEnd, ← List.reverse_append, List.takeWhile_append_dropWhile, List.reverse_reverse]
  refine ⟨text.takeWhile isBlank, ((trimStart text).reverse.takeWhile isBlank).reverse,
    fun c hc => List.mem_takeWhile_imp hc,
    fun c hc => List.mem_takeWhile_imp (List.mem_reverse.mp hc), ?_⟩
  rw [trim, List.append_assoc, back, front]

/-- Trimming leaves the core, if there is no white space in it. -/
theorem Padded.trim_eq {core text : List Char} (h : Padded core text)
    (solid : ∀ c ∈ core, isBlank c = false) : trim text = core := by
  obtain ⟨before, after, hb, ha, rfl⟩ := h
  have start : trimStart (before ++ core ++ after) = (core ++ after).dropWhile isBlank := by
    rw [trimStart, List.append_assoc, List.dropWhile_append_of_pos hb]
  rw [trim, start]
  cases core with
  | nil =>
      -- all of the text is white space
      have none : after.dropWhile isBlank = [] := List.dropWhile_eq_nil_iff.mpr ha
      rw [List.nil_append, none]
      rfl
  | cons c rest =>
      have kept : (c :: rest ++ after).dropWhile isBlank = c :: rest ++ after := by
        simp [solid c List.mem_cons_self]
      have ha' : ∀ c ∈ after.reverse, isBlank c = true := fun c hc =>
        ha c (List.mem_reverse.mp hc)
      rw [kept, trimEnd, List.reverse_append, List.dropWhile_append_of_pos ha',
        dropWhile_isBlank_of_solid fun d hd => solid d (List.mem_reverse.mp hd),
        List.reverse_reverse]

/-- Trimming keeps the character that the text starts with, white space aside. -/
theorem exists_trim_eq_cons {text : List Char} {c : Char} (solid : isBlank c = false)
    (head : (trimStart text).head? = some c) : ∃ rest, trim text = c :: rest := by
  obtain ⟨rest, start⟩ := List.head?_eq_some_iff.mp head
  have single : [c].dropWhile isBlank = [c] := by simp [solid]
  rw [trim, start, trimEnd, List.reverse_cons, List.dropWhile_append, single]
  by_cases blank : (rest.reverse.dropWhile isBlank).isEmpty = true
  · -- from the end, trimming comes to a halt at this character
    rw [if_pos blank]
    exact ⟨[], rfl⟩
  · rw [if_neg blank, List.reverse_append]
    exact ⟨_, rfl⟩

/-- A text has a core of some kind if and only if that is what trimming leaves, provided
that there is no white space in cores of that kind. -/
theorem exists_padded_iff {Core : List Char → Prop}
    (solid : ∀ core, Core core → ∀ c ∈ core, isBlank c = false) {text : List Char} :
    (∃ core, Padded core text ∧ Core core) ↔ Core (trim text) := by
  constructor
  · rintro ⟨core, padded, hcore⟩
    rw [padded.trim_eq (solid core hcore)]
    exact hcore
  · intro h
    exact ⟨trim text, padded_trim text, h⟩

/-- No digit is white space. -/
theorem IsDigitOf.isBlank_eq_false {radix value : Nat} {c : Char} (small : radix ≤ 36)
    (h : IsDigitOf radix c value) : isBlank c = false := by
  have below := h.1
  have code := h.code small
  simp only [isBlank, Bool.or_eq_false_iff, Bool.and_eq_false_iff, decide_eq_false_iff_not,
    beq_eq_false_iff_ne]
  omega

theorem Digits.solid {radix n : Nat} {text : List Char} (h : Digits radix text n)
    (small : radix ≤ 36) : ∀ c ∈ text, isBlank c = false := by
  intro c hc
  obtain ⟨value, digit⟩ := h.of_mem hc
  exact digit.isBlank_eq_false small

/-- There is no white space in a number. -/
theorem Unsigned.solid {radix n : Nat} {text : List Char} (h : Unsigned radix text n)
    (small : radix ≤ 36) : ∀ c ∈ text, isBlank c = false := by
  intro c hc
  rcases h with digits | ⟨rest, rfl, digits⟩
  · exact digits.solid small c hc
  · rcases List.mem_cons.mp hc with rfl | hc
    · rfl
    · exact digits.solid small c hc

end Horizon.Text
