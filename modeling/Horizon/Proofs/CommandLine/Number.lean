/-
  Horizon.Proofs.CommandLine.Number
  ─────────────────────────────────
  **WHICH NUMBERS A COMMAND LINE TAKES.**

  White space around them aside, words and result codes are spelled

      word          0x1FF8_0000    0Xff    4_096    +7        below 2^32
      result code   any word, or -9                           from -2^31

  Underscores count for nothing behind the mark of a hexadecimal word and anywhere in a
  decimal one; a negative code takes neither underscores nor a mark.  A code is printed as
  a hexadecimal word, and whichever way its word is written it reads back as that code.
-/
import Horizon.CommandLine.Number
import Horizon.Proofs.ResultCode.Packing
import Horizon.Proofs.Text.Spelling

namespace Horizon.CommandLine

open Text

/-! ## §1. Words. -/

/-- The text starts like a hexadecimal word. -/
def Marked (text : List Char) : Prop :=
  ∃ mark rest, (mark = 'x' ∨ mark = 'X') ∧ text = '0' :: mark :: rest

/-- The text spells a number: hexadecimal behind a mark, otherwise decimal, underscores
aside. -/
inductive SpellsWord : List Char → Nat → Prop where
  | hexadecimal {mark : Char} {rest : List Char} {n : Nat} (marked : mark = 'x' ∨ mark = 'X')
      (number : Unsigned 16 (withoutUnderscores rest) n) : SpellsWord ('0' :: mark :: rest) n
  | decimal {text : List Char} {n : Nat} (unmarked : ¬Marked text)
      (number : Unsigned 10 (withoutUnderscores text) n) : SpellsWord text n

theorem mem_withoutUnderscores {text : List Char} {c : Char} :
    c ∈ withoutUnderscores text ↔ c ∈ text ∧ c ≠ '_' := by
  simp [withoutUnderscores]

theorem withoutUnderscores_of_digits {radix n : Nat} {text : List Char} (small : radix ≤ 36)
    (h : Digits radix text n) : withoutUnderscores text = text := by
  have clear : '_' ∉ text := h.not_mem small (by simp [digitValue?])
  rw [withoutUnderscores, List.filter_eq_self]
  intro c hc
  rw [bne_iff_ne]
  rintro rfl
  exact clear hc

/-- Words are read exactly as they are spelled. -/
theorem readWord_eq_ok_iff {text : List Char} {n : Nat} :
    readWord text = .ok n ↔ SpellsWord text n ∧ n < 2 ^ 32 := by
  have limit : n ≤ wordLimit ↔ n < 2 ^ 32 := by
    unfold wordLimit
    omega
  -- a mark tells how the rest is spelled
  have marked {mark : Char} {rest : List Char} (h : mark = 'x' ∨ mark = 'X') :
      SpellsWord ('0' :: mark :: rest) n ↔ Unsigned 16 (withoutUnderscores rest) n := by
    constructor
    · intro spells
      cases spells with
      | hexadecimal _ number => exact number
      | decimal unmarked _ => exact absurd ⟨mark, rest, h, rfl⟩ unmarked
    · exact SpellsWord.hexadecimal h
  unfold readWord
  split
  · rw [readUnsigned_eq_ok_iff (by decide), limit, marked (Or.inl rfl)]
  · rw [readUnsigned_eq_ok_iff (by decide), limit, marked (Or.inr rfl)]
  · rename_i small capital
    rw [readUnsigned_eq_ok_iff (by decide), limit]
    have unmarked : ¬Marked text := by
      rintro ⟨mark, rest, rfl | rfl, rfl⟩
      · exact small rest rfl
      · exact capital rest rfl
    refine and_congr_left fun _ => ⟨SpellsWord.decimal unmarked, fun spells => ?_⟩
    cases spells with
    | hexadecimal h _ => exact absurd ⟨_, _, h, rfl⟩ unmarked
    | decimal _ number => exact number

/-- There is no white space inside of a word. -/
theorem SpellsWord.solid {text : List Char} {n : Nat} (h : SpellsWord text n) :
    ∀ c ∈ text, isBlank c = false := by
  have around {rest : List Char} (h : ∀ c ∈ withoutUnderscores rest, isBlank c = false) :
      ∀ c ∈ rest, isBlank c = false := by
    intro c hc
    by_cases underscore : c = '_'
    · rw [underscore]
      rfl
    · exact h c (mem_withoutUnderscores.mpr ⟨hc, underscore⟩)
  cases h with
  | @hexadecimal mark rest _ marked number =>
      intro c hc
      rcases List.mem_cons.mp hc with rfl | hc
      · rfl
      · rcases List.mem_cons.mp hc with rfl | hc
        · rcases marked with rfl | rfl
          · rfl
          · rfl
        · exact around (number.solid (by decide)) c hc
  | decimal _ number => exact around (number.solid (by decide))

/-- No word starts with a minus sign. -/
theorem not_spellsWord_minus {rest : List Char} {n : Nat} : ¬SpellsWord ('-' :: rest) n := by
  intro h
  cases h with
  | decimal _ number =>
      have clear : '-' ∉ withoutUnderscores ('-' :: rest) :=
        number.not_mem (by decide) (by simp [digitValue?]) (by decide)
      exact clear (mem_withoutUnderscores.mpr ⟨List.mem_cons_self, by decide⟩)

/-- **Exactly the spellings of a word are read as it**, in any white space. -/
theorem parseWord_eq_ok_iff {input : String} {word : UInt32} :
    parseWord input = .ok word ↔ ∃ core n, Padded core input.toList ∧ SpellsWord core n ∧
      n < 2 ^ 32 ∧ word.toNat = n := by
  have read : parseWord input = .ok word ↔ readWord (trim input.toList) = .ok word.toNat := by
    unfold parseWord
    dsimp only
    cases h : readWord (trim input.toList) with
    | error e => simp
    | ok n =>
        have small := (readWord_eq_ok_iff.mp h).2
        simp only [Except.ok.injEq, ← UInt32.toNat_inj, UInt32.toNat_ofNat']
        rw [Nat.mod_eq_of_lt small]
  have solid : ∀ core, SpellsWord core word.toNat ∧ word.toNat < 2 ^ 32 →
      ∀ c ∈ core, isBlank c = false := fun _ h => h.1.solid
  rw [read, readWord_eq_ok_iff, ← exists_padded_iff solid]
  constructor
  · rintro ⟨core, padded, spells, small⟩
    exact ⟨core, word.toNat, padded, spells, small, rfl⟩
  · rintro ⟨core, n, padded, spells, small, rfl⟩
    exact ⟨core, padded, spells, small⟩

/-! ## §2. Result codes. -/

/-- The text starts with a minus sign, white space aside. -/
def StartsNegative (input : String) : Prop :=
  (trimStart input.toList).head? = some '-'

instance (input : String) : Decidable (StartsNegative input) :=
  inferInstanceAs (Decidable (_ = _))

theorem padded_minus_iff {input : String} {digits : List Char} {n : Nat}
    (h : Digits 10 digits n) :
    Padded ('-' :: digits) input.toList ↔ trim input.toList = '-' :: digits := by
  have solid : ∀ c ∈ '-' :: digits, isBlank c = false := by
    intro c hc
    rcases List.mem_cons.mp hc with rfl | hc
    · rfl
    · exact h.solid (by decide) c hc
  constructor
  · intro padded
    exact padded.trim_eq solid
  · intro trimmed
    rw [← trimmed]
    exact padded_trim input.toList

/-- **Negative codes are read exactly as they are spelled.** -/
theorem parseResultCode_eq_ok_iff_of_negative {input : String} (negative : StartsNegative input)
    {code : ResultCode} :
    parseResultCode input = .ok code ↔ ∃ digits n, Padded ('-' :: digits) input.toList ∧
      Digits 10 digits n ∧ n ≤ 2 ^ 31 ∧ code.toInt = -(n : Int) := by
  have head : (trimStart input.toList).head? = some '-' := negative
  obtain ⟨rest, trimmed⟩ := exists_trim_eq_cons rfl head
  have read : parseResultCode input = .ok code ↔
      ∃ i, readSigned 10 (2 ^ 31 - 1) ('-' :: rest) = .ok i ∧ ResultCode.ofInt i = code := by
    unfold parseResultCode
    rw [if_pos head, trimmed]
    cases readSigned 10 (2 ^ 31 - 1) ('-' :: rest) with
    | error e => simp
    | ok i => simp
  have small : 10 ≤ 36 := by decide
  simp only [read, readSigned_minus_eq_ok_iff small]
  constructor
  · rintro ⟨i, ⟨n, digits, within, rfl⟩, rfl⟩
    exact ⟨rest, n, (padded_minus_iff digits).mpr trimmed, digits, by omega,
      ResultCode.toInt_ofInt (by omega) (by omega)⟩
  · rintro ⟨digits, n, padded, hd, within, value⟩
    -- the core is what was read, since trimming leaves both
    have same : '-' :: rest = '-' :: digits :=
      trimmed.symm.trans ((padded_minus_iff hd).mp padded)
    cases same
    exact ⟨code.toInt, ⟨n, hd, by omega, value⟩, code.ofInt_toInt⟩

/-- Any other code is read as its word. -/
theorem parseResultCode_eq_ok_iff_of_not_negative {input : String}
    (positive : ¬StartsNegative input) {code : ResultCode} :
    parseResultCode input = .ok code ↔ parseWord input = .ok code.raw := by
  have head : ¬(trimStart input.toList).head? = some '-' := positive
  unfold parseResultCode
  rw [if_neg head]
  cases parseWord input with
  | error e => simp [Except.map]
  | ok word =>
      simp only [Except.map, Except.ok.injEq]
      constructor
      · rintro rfl
        rfl
      · rintro rfl
        rfl

/-! ## §3. Printed codes. -/

/-- However the word of a code is spelled, the code is read from it. -/
theorem parseResultCode_of_spellsWord {input : String} {core : List Char} {code : ResultCode}
    (padded : Padded core input.toList) (spells : SpellsWord core code.raw.toNat) :
    parseResultCode input = .ok code := by
  have positive : ¬StartsNegative input := by
    intro negative
    -- trimming keeps a minus sign at the start, and it leaves the word
    obtain ⟨rest, trimmed⟩ := exists_trim_eq_cons rfl negative
    rw [padded.trim_eq spells.solid] at trimmed
    rw [trimmed] at spells
    exact not_spellsWord_minus spells
  rw [parseResultCode_eq_ok_iff_of_not_negative positive, parseWord_eq_ok_iff]
  exact ⟨core, code.raw.toNat, padded, spells, code.raw.toNat_lt, rfl⟩

theorem spellsWord_hexWord (word : UInt32) : SpellsWord (hexWord word).toList word.toNat := by
  have digits := digits_fixedHex 7 word.toNat
  have small : word.toNat % 16 ^ (7 + 1) = word.toNat := Nat.mod_eq_of_lt word.toNat_lt
  rw [small] at digits
  rw [hexWord, String.toList_ofList]
  refine .hexadecimal (Or.inl rfl) (Or.inl ?_)
  rw [withoutUnderscores_of_digits (by decide) digits]
  exact digits

theorem spellsWord_decimal (n : Nat) : SpellsWord (decimal n) n := by
  have digits := digits_decimal n
  have unmarked : ¬Marked (decimal n) := by
    rintro ⟨mark, rest, hmark, text⟩
    have member : mark ∈ decimal n := by
      rw [text]
      simp
    -- the second character would be a letter, and no digit is one
    have stray : digitValue? 10 mark = none := by
      rcases hmark with rfl | rfl
      · rfl
      · rfl
    exact digits.not_mem (by decide) stray member
  refine .decimal unmarked (Or.inl ?_)
  rw [withoutUnderscores_of_digits (by decide) digits]
  exact digits

/-- A code reads back from its signed number. -/
theorem parseResultCode_signedDecimal (code : ResultCode) :
    parseResultCode (String.ofList (signedDecimal code.toInt)) = .ok code := by
  have bounds := code.toInt_bounds
  cases value : code.toInt with
  | ofNat n =>
      have raw : code.raw.toNat = n := ResultCode.toNat_raw_of_toInt value
      refine parseResultCode_of_spellsWord (padded_self _) ?_
      rw [String.toList_ofList, raw]
      exact spellsWord_decimal n
  | negSucc n =>
      have negative : StartsNegative (String.ofList ('-' :: decimal (n + 1))) := by
        unfold StartsNegative
        rw [String.toList_ofList]
        rfl
      refine (parseResultCode_eq_ok_iff_of_negative negative).mpr
        ⟨decimal (n + 1), n + 1, ?_, digits_decimal (n + 1), by omega, by omega⟩
      rw [String.toList_ofList]
      exact padded_self _

/-- **NUMBERS ARE READ AS THEY ARE SPELLED, AND EVERY PRINTED CODE IS READ BACK.**

  · Exactly the spellings of words are read as words.
  · Exactly a minus sign and digits are read as a negative code, with no underscores and no
    mark; a code that does not start with a minus sign is read as its word.
  · Every code reads back as it is printed, from its word as a decimal number and from its
    signed number. -/
theorem words_and_codes_read_as_spelled :
    (∀ input word, parseWord input = .ok word ↔ ∃ core n,
      Padded core input.toList ∧ SpellsWord core n ∧ n < 2 ^ 32 ∧ word.toNat = n)
    ∧ (∀ input code, parseResultCode input = .ok code ↔
      if StartsNegative input then
        ∃ digits n, Padded ('-' :: digits) input.toList ∧ Digits 10 digits n ∧ n ≤ 2 ^ 31
          ∧ code.toInt = -(n : Int)
      else parseWord input = .ok code.raw)
    ∧ (∀ code : ResultCode, parseResultCode code.text = .ok code
      ∧ parseResultCode (String.ofList (decimal code.raw.toNat)) = .ok code
      ∧ parseResultCode (String.ofList (signedDecimal code.toInt)) = .ok code) := by
  refine ⟨fun _ _ => parseWord_eq_ok_iff, ?_, ?_⟩
  · intro input code
    by_cases negative : StartsNegative input
    · rw [if_pos negative]
      exact parseResultCode_eq_ok_iff_of_negative negative
    · rw [if_neg negative]
      exact parseResultCode_eq_ok_iff_of_not_negative negative
  · intro code
    refine ⟨?_, ?_, parseResultCode_signedDecimal code⟩
    · exact parseResultCode_of_spellsWord (padded_self _) (spellsWord_hexWord code.raw)
    · refine parseResultCode_of_spellsWord (padded_self _) ?_
      rw [String.toList_ofList]
      exact spellsWord_decimal code.raw.toNat

end Horizon.CommandLine
