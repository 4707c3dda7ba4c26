/-
  Horizon.Proofs.Json.Number
  ──────────────────────────
  **WHERE A NUMBER ENDS IN A JSON TEXT.**

  Nothing marks the end of a number: the reader goes on as long as what follows could
  belong to it.  In a document a comma or a closing bracket follows, or nothing at all,
  and none of these could.  So a number that is read from a text of its own is read the
  same in front of them:

      number │ rest        what is read of `number ++ rest` is what is read of `number`,
                           and `rest` is left

  Whole numbers that fit 64 bits read back as themselves.
-/
import Mathlib.Algebra.Group.Int.Defs
import Mathlib.Algebra.Group.Nat.Defs
import Mathlib.Data.List.TakeWhile
import Horizon.Document.Json
import Horizon.Document.Json.Reader
import Horizon.Proofs.Text.Numeral

namespace Horizon.Json

open Binary Text

/-! ## §1. What follows a value. -/

/-- What may follow a value on one line. -/
inductive Closes : List Char → Prop where
  | nothing : Closes []
  | comma (tail : List Char) : Closes (',' :: tail)
  | bracket (tail : List Char) : Closes (']' :: tail)
  | brace (tail : List Char) : Closes ('\x7d' :: tail)

variable {rest : List Char}

/-- A run of digits ends where the text was going to be closed. -/
theorem takeDigits_append (closes : Closes rest) (text : List Char) :
    takeDigits (text ++ rest) = ((takeDigits text).1, (takeDigits text).2 ++ rest) := by
  unfold takeDigits
  induction text with
  | nil => cases closes <;> rfl
  | cons c text ih =>
      rw [Prod.mk.injEq] at ih
      by_cases digit : c.isDigit = true
      · rw [List.cons_append, List.takeWhile_cons_of_pos digit, List.dropWhile_cons_of_pos digit,
          List.takeWhile_cons_of_pos digit, List.dropWhile_cons_of_pos digit, ih.1, ih.2]
      · rw [List.cons_append, List.takeWhile_cons_of_neg digit, List.dropWhile_cons_of_neg digit,
          List.takeWhile_cons_of_neg digit, List.dropWhile_cons_of_neg digit]
        rfl

/-- Digits and nothing else are one run. -/
theorem takeDigits_of_allDigits (closes : Closes rest) {digits : List Char}
    (all : AllDigits digits) : takeDigits (digits ++ rest) = (digits, rest) := by
  have alone : takeDigits digits = (digits, []) :=
    Prod.ext (List.takeWhile_eq_self_iff.mpr all) (List.dropWhile_eq_nil_iff.mpr all)
  rw [takeDigits_append closes, alone]
  rfl

/-! ## §2. The parts of a number. -/

/-- The sign, and what comes after it. -/
def takeSign : List Char → Bool × List Char
  | '-' :: rest => (true, rest)
  | rest => (false, rest)

theorem takeSign_unsigned {c : Char} (unsigned : c ≠ '-') (text : List Char) :
    takeSign (c :: text) = (false, c :: text) := by
  rw [takeSign]
  rintro tail ⟨⟩
  exact unsigned rfl

theorem takeSign_append {text : List Char} (some : text ≠ []) (rest : List Char) :
    takeSign (text ++ rest) = ((takeSign text).1, (takeSign text).2 ++ rest) := by
  cases text with
  | nil => exact absurd rfl some
  | cons c text =>
      by_cases minus : c = '-'
      · subst minus
        rfl
      · rw [List.cons_append, takeSign_unsigned minus, takeSign_unsigned minus]
        rfl

/-- The digits in front of a point; a zero does not stand in front of others. -/
def readWhole (text : List Char) : Option (List Char × List Char) :=
  let (whole, rest) := takeDigits text
  if whole.isEmpty || (whole.length > 1 && whole.head? = some '0') then none
  else some (whole, rest)

/-- The digits behind a point, and whether there is a point. -/
def readFraction : List Char → Option (List Char × Bool × List Char)
  | '.' :: rest =>
    let (digits, rest) := takeDigits rest
    if digits.isEmpty then none else some (digits, true, rest)
  | rest => some ([], false, rest)

/-- The digits of an exponent whose sign was taken. -/
def readPower (negative : Bool) (text : List Char) : Option (Option Int × List Char) :=
  let (digits, rest) := takeDigits text
  if digits.isEmpty then none
  else
    let n : Int := Nat.ofDigitChars 10 digits 0
    some (some (if negative then -n else n), rest)

theorem readExponent_go_unsigned {c : Char} (minus : c ≠ '-') (plus : c ≠ '+')
    (text : List Char) : readExponent.go (c :: text) = readPower false (c :: text) := by
  unfold readExponent.go
  split
  next negative unsigned sign =>
  split at sign
  next heq => exact absurd (List.cons.inj heq).1 minus
  next heq => exact absurd (List.cons.inj heq).1 plus
  next =>
    cases sign
    rfl

/-- What the parts of a number amount to. -/
def numberOf (negative : Bool) (whole fraction : List Char) (pointed : Bool)
    (exponent : Option Int) : Document :=
  let coefficient := Nat.ofDigitChars 10 (whole ++ fraction) 0
  let number :=
    Document.double (.ofDecimal negative coefficient (exponent.getD 0 - fraction.length))
  if pointed || exponent.isSome then number
  else if negative then
    if coefficient = 0 || 2 ^ 63 < coefficient then number else .integer (-coefficient)
  else if coefficient < 2 ^ 64 then .integer coefficient
  else number

/-- A number without a sign, part by part. -/
def readParts (negative : Bool) (text : List Char) : Option (Document × List Char) :=
  (readWhole text).bind fun whole =>
    (readFraction whole.2).bind fun fraction =>
      (readExponent fraction.2.2).bind fun exponent =>
        some (numberOf negative whole.1 fraction.1 fraction.2.1 exponent.1, exponent.2)

/-- The value of a number, found where it ends, is what its parts amount to. -/
theorem some_numberOf (negative : Bool) (whole fraction : List Char) (pointed : Bool)
    (exponent : Option Int) (rest : List Char) :
    some (numberOf negative whole fraction pointed exponent, rest) =
      (let coefficient := Nat.ofDigitChars 10 (whole ++ fraction) 0
      let number :=
        Document.double (.ofDecimal negative coefficient (exponent.getD 0 - fraction.length))
      if pointed || exponent.isSome then some (number, rest)
      else if negative then
        if coefficient = 0 || 2 ^ 63 < coefficient then some (number, rest)
        else some (.integer (-coefficient), rest)
      else if coefficient < 2 ^ 64 then some (.integer coefficient, rest)
      else some (number, rest)) := by
  unfold numberOf
  dsimp only
  repeat' split
  all_goals rfl

/-- A number is read part by part, the sign first. -/
theorem readNumber_eq (text : List Char) :
    readNumber text = readParts (takeSign text).1 (takeSign text).2 := by
  unfold readNumber
  split
  next negative unsigned sign =>
  rw [show takeSign text = (negative, unsigned) from sign]
  unfold readParts readWhole
  cases takeDigits unsigned with
  | mk whole behind =>
  dsimp only
  split
  next => rfl
  next =>
  -- with the value named by its parts, all that is left is whether there is a point
  rw [Option.bind_some]
  simp only [some_numberOf]
  split
  next rest =>
      rw [readFraction]
      cases takeDigits rest with
      | mk digits left =>
      dsimp only
      split
      next => rfl
      next => rfl
  next other =>
      rw [readFraction]
      · rfl
      · exact other

/-! ## §3. Numbers in front of what closes them. -/

section

variable (closes : Closes rest)

include closes

theorem readWhole_append {text whole left : List Char}
    (h : readWhole text = some (whole, left)) :
    readWhole (text ++ rest) = some (whole, left ++ rest) := by
  unfold readWhole at h ⊢
  rw [takeDigits_append closes]
  dsimp only at h ⊢
  split at h
  · cases h
  · rename_i proper
    cases h
    rw [if_neg proper]

theorem readFraction_append {text digits left : List Char} {pointed : Bool}
    (h : readFraction text = some (digits, pointed, left)) :
    readFraction (text ++ rest) = some (digits, pointed, left ++ rest) := by
  cases text with
  | nil =>
      cases h
      cases closes <;> rfl
  | cons c text =>
      by_cases point : c = '.'
      · subst point
        rw [List.cons_append, readFraction, takeDigits_append closes]
        rw [readFraction] at h
        dsimp only at h ⊢
        split at h
        · cases h
        · rename_i some
          cases h
          rw [if_neg some]
      · have other (tail : List Char) : readFraction (c :: tail) = some ([], false, c :: tail) := by
          rw [readFraction]
          rintro tail ⟨⟩
          exact point rfl
        rw [other] at h
        cases h
        exact other (text ++ rest)

theorem readPower_append {text left : List Char} {negative : Bool} {exponent : Option Int}
    (h : readPower negative text = some (exponent, left)) :
    readPower negative (text ++ rest) = some (exponent, left ++ rest) := by
  unfold readPower at h ⊢
  rw [takeDigits_append closes]
  dsimp only at h ⊢
  split at h
  · cases h
  · rename_i some
    cases h
    rw [if_neg some]

theorem readExponent_go_append {text left : List Char} {exponent : Option Int}
    (h : readExponent.go text = some (exponent, left)) :
    readExponent.go (text ++ rest) = some (exponent, left ++ rest) := by
  cases text with
  | nil => cases h
  | cons c text =>
      by_cases minus : c = '-'
      · subst minus
        have power : readPower true text = some (exponent, left) := h
        exact readPower_append closes power
      · by_cases plus : c = '+'
        · subst plus
          have power : readPower false text = some (exponent, left) := h
          exact readPower_append closes power
        · rw [List.cons_append, readExponent_go_unsigned minus plus]
          rw [readExponent_go_unsigned minus plus] at h
          exact readPower_append closes h

theorem readExponent_append {text left : List Char} {exponent : Option Int}
    (h : readExponent text = some (exponent, left)) :
    readExponent (text ++ rest) = some (exponent, left ++ rest) := by
  cases text with
  | nil =>
      cases h
      cases closes <;> rfl
  | cons c text =>
      by_cases small : c = 'e'
      · subst small
        exact readExponent_go_append closes h
      · by_cases capital : c = 'E'
        · subst capital
          exact readExponent_go_append closes h
        · have other (tail : List Char) : readExponent (c :: tail) = some (none, c :: tail) := by
            rw [readExponent]
            · rintro tail ⟨⟩
              exact small rfl
            · rintro tail ⟨⟩
              exact capital rfl
          rw [other] at h
          cases h
          exact other (text ++ rest)

/-- **A number ends where the text is closed**: behind a number that is read as a whole
nothing changes what is read. -/
theorem readNumber_append {text left : List Char} {document : Document}
    (h : readNumber text = some (document, left)) :
    readNumber (text ++ rest) = some (document, left ++ rest) := by
  have some : text ≠ [] := by
    rintro rfl
    cases h
  rw [readNumber_eq] at h ⊢
  rw [takeSign_append some]
  unfold readParts at h ⊢
  obtain ⟨⟨whole, behind⟩, wholeRead, h⟩ := Option.bind_eq_some_iff.mp h
  obtain ⟨⟨fraction, pointed, further⟩, fractionRead, h⟩ := Option.bind_eq_some_iff.mp h
  obtain ⟨⟨exponent, last⟩, exponentRead, h⟩ := Option.bind_eq_some_iff.mp h
  cases h
  rw [readWhole_append closes wholeRead, Option.bind_some,
    readFraction_append closes fractionRead, Option.bind_some,
    readExponent_append closes exponentRead, Option.bind_some]

end

/-! ## §4. Whole numbers. -/

theorem readWhole_decimal (n : Nat) : readWhole (decimal n) = some (decimal n, []) := by
  have run := takeDigits_of_allDigits .nothing (allDigits_decimal n)
  rw [List.append_nil] at run
  unfold readWhole
  rw [run]
  dsimp only
  refine if_neg ?_
  rw [Bool.or_eq_true, not_or]
  refine ⟨by simp [decimal_ne_nil n], ?_⟩
  -- only the number zero starts with a zero, and it has no other digit
  rcases Nat.eq_zero_or_pos n with rfl | positive
  · decide
  · obtain ⟨c, digits, first, large⟩ := head_decimal positive
    rw [first]
    intro zero
    simp only [Bool.and_eq_true, decide_eq_true_eq, List.head?_cons, Option.some.injEq] at zero
    rw [zero.2] at large
    exact absurd large (by decide)

/-- **Whole numbers that fit 64 bits read back**, with a sign or without. -/
theorem readNumber_signedDecimal {n : Int} (least : -2 ^ 63 ≤ n) (most : n < 2 ^ 64) :
    readNumber (signedDecimal n) = some (.integer n, []) := by
  have parts (negative : Bool) (m : Nat) :
      readParts negative (decimal m) = some (numberOf negative (decimal m) [] false none, []) := by
    unfold readParts
    rw [readWhole_decimal]
    rfl
  have digits (m : Nat) : Nat.ofDigitChars 10 (decimal m ++ []) 0 = m := by
    rw [List.append_nil]
    exact Nat.ofDigitChars_ten_toDigits
  rw [readNumber_eq]
  cases n with
  | ofNat m =>
      have unsigned : takeSign (decimal m) = (false, decimal m) := by
        cases first : decimal m with
        | nil => exact absurd first (decimal_ne_nil m)
        | cons c rest =>
            have digit := allDigits_decimal m c (by simp [first])
            exact takeSign_unsigned (ne_of_isDigit digit rfl) rest
      have small : m < 2 ^ 64 := by
        have cast : Int.ofNat m = (m : Int) := rfl
        omega
      rw [signedDecimal, unsigned]
      dsimp only
      rw [parts, numberOf]
      simp only [digits, Bool.false_or, Option.isSome_none, Bool.false_eq_true, if_false,
        if_pos small]
      rfl
  | negSucc m =>
      -- a minus sign is only lost on zero, and here the digits are those of `m + 1`
      have small : ¬(decide (m + 1 = 0) || decide (2 ^ 63 < m + 1)) = true := by
        simp only [Bool.or_eq_true, decide_eq_true_eq]
        omega
      rw [signedDecimal, takeSign]
      dsimp only
      rw [parts, numberOf]
      simp only [digits, Bool.false_or, Option.isSome_none, Bool.false_eq_true, if_false, if_true,
        if_neg small]
      rfl

end Horizon.Json
