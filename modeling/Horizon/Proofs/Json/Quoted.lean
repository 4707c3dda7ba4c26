/-
  Horizon.Proofs.Json.Quoted
  ──────────────────────────
  **QUOTED TEXTS IN JSON READ BACK.**

  What is written for one character is read as that character, whatever follows it, so
  what is written for a text is read as the text:

      "          quotation marks and backslashes behind a backslash
      \n, \t …   a letter behind a backslash
      \u001f     other control characters by their number
      é, 字, …   everything else as it is
-/
import Horizon.Document.Json
import Horizon.Document.Json.Reader

namespace Horizon.Json

open Text

/-! ## §1. Single characters. -/

/-- The four digits of a control character name it. -/
theorem hexValue_control :
    ∀ n < 32, hexValue ('0' :: '0' :: fixedHex lowerHexDigit 2 n) = some n := by
  decide +kernel

theorem readText_control {n : Nat} (control : n < 32) (fuel : Nat) (tail : List Char) :
    readText (fuel + 1) ("\\u00".toList ++ fixedHex lowerHexDigit 2 n ++ tail)
      = (readText fuel tail).map fun r => (Char.ofNat n :: r.1, r.2) := by
  have value := hexValue_control n control
  have low : ¬(decide (0xD800 ≤ n) && decide (n < 0xDC00)) = true := by
    simp only [Bool.and_eq_true, decide_eq_true_eq]
    omega
  have high : ¬(decide (0xDC00 ≤ n) && decide (n < 0xE000)) = true := by
    simp only [Bool.and_eq_true, decide_eq_true_eq]
    omega
  show ((hexValue ('0' :: '0' :: fixedHex lowerHexDigit 2 n)).bind fun unit =>
    if (decide (0xD800 ≤ unit) && decide (unit < 0xDC00)) = true then _
    else if (decide (0xDC00 ≤ unit) && decide (unit < 0xE000)) = true then none
    else (readText fuel tail).bind fun r => some (Char.ofNat unit :: r.1, r.2)) = _
  rw [value, Option.bind_some, if_neg low, if_neg high]
  cases readText fuel tail <;> rfl

/-- **A character reads back from what is written for it.** -/
theorem readText_escapeChar (c : Char) (fuel : Nat) (tail : List Char) :
    readText (fuel + 1) (escapeChar c ++ tail)
      = (readText fuel tail).map fun r => (c :: r.1, r.2) := by
  have named (n : Nat) (same : c.toNat = n) : Char.ofNat n = c := by
    rw [← same, Char.ofNat_toNat]
  have finish (d : Char) (same : d = c) :
      ((readText fuel tail).bind fun r => some (d :: r.1, r.2))
        = (readText fuel tail).map fun r => (c :: r.1, r.2) := by
    subst same
    cases readText fuel tail <;> rfl
  unfold escapeChar
  -- one case for each escape, in the order in which the writer asks for them
  by_cases quote : c = '"'
  · rw [if_pos quote]
    exact finish '"' quote.symm
  rw [if_neg quote]
  by_cases slash : c = '\\'
  · rw [if_pos slash]
    exact finish '\\' slash.symm
  rw [if_neg slash]
  by_cases feed : c = '\n'
  · rw [if_pos feed]
    exact finish '\n' feed.symm
  rw [if_neg feed]
  by_cases carriage : c = '\r'
  · rw [if_pos carriage]
    exact finish '\r' carriage.symm
  rw [if_neg carriage]
  by_cases tab : c = '\t'
  · rw [if_pos tab]
    exact finish '\t' tab.symm
  rw [if_neg tab]
  by_cases back : c.toNat = 8
  · rw [if_pos back]
    exact finish (Char.ofNat 8) (named 8 back)
  rw [if_neg back]
  by_cases form : c.toNat = 12
  · rw [if_pos form]
    exact finish (Char.ofNat 12) (named 12 form)
  rw [if_neg form]
  by_cases control : c.toNat < 0x20
  · rw [if_pos control, readText_control control, Char.ofNat_toNat]
  · rw [if_neg control, List.singleton_append, readText]
    · rw [if_neg control]
      exact finish c rfl
    · exact quote
    · intro a b d e rest same
      exact absurd same slash
    · intro d rest same
      exact absurd same slash

/-! ## §2. Texts. -/

theorem readText_escaped (text rest : List Char) {fuel : Nat} (enough : text.length < fuel) :
    readText fuel (text.flatMap escapeChar ++ '"' :: rest) = some (text, rest) := by
  induction text generalizing fuel with
  | nil =>
      obtain ⟨fuel, rfl⟩ : ∃ f, fuel = f + 1 := ⟨fuel - 1, by omega⟩
      rfl
  | cons c text ih =>
      obtain ⟨fuel, rfl⟩ : ∃ f, fuel = f + 1 := ⟨fuel - 1, by omega⟩
      rw [List.length_cons] at enough
      rw [List.flatMap_cons, List.append_assoc, readText_escapeChar, ih (by omega)]
      rfl

theorem length_escapeChar_pos (c : Char) : 1 ≤ (escapeChar c).length := by
  unfold escapeChar
  repeat' split
  all_goals simp

theorem length_le_escaped (text : List Char) :
    text.length ≤ (text.flatMap escapeChar).length := by
  induction text with
  | nil => simp
  | cons c text ih =>
      have first := length_escapeChar_pos c
      rw [List.flatMap_cons, List.length_append, List.length_cons]
      omega

theorem toList_quoted (text : String) :
    (quoted text).toList = '"' :: (text.toList.flatMap escapeChar ++ ['"']) := by
  rw [quoted, String.toList_ofList]

/-- **A quoted text reads back**: behind its first quotation mark the reader returns the
text and what follows the second one. -/
theorem readText_quoted (text : String) (rest : List Char) :
    ∃ body, (quoted text).toList ++ rest = '"' :: body
      ∧ readText (body.length + 1) body = some (text.toList, rest) := by
  refine ⟨text.toList.flatMap escapeChar ++ '"' :: rest, ?_, ?_⟩
  · rw [toList_quoted]
    simp
  · refine readText_escaped text.toList rest ?_
    have short := length_le_escaped text.toList
    rw [List.length_append]
    omega

end Horizon.Json
