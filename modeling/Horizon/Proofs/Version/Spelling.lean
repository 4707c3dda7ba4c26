/-
  Horizon.Proofs.Version.Spelling
  ───────────────────────────────
  **HOW VERSIONS ARE SPELLED.**

  A spelling of a version is three unsigned numbers up to 255 between points, with any
  white space around all of it:

      "  +07.0.255 "      spells      7, 0, 255

  Reading accepts exactly the spellings.
-/
import Horizon.Proofs.Text.Spelling

namespace Horizon

open Text

/-! ## §1. Splitting. -/

namespace Text

theorem splitOn_eq_singleton {separator : Char} {part : List Char} (h : separator ∉ part) :
    splitOn separator part = [part] := by
  induction part with
  | nil => rfl
  | cons c part ih =>
      have hc : c ≠ separator := fun e => h (by simp [e])
      have ih := ih fun hm => h (by simp [hm])
      simp [splitOn, hc, ih]

theorem splitOn_append {separator : Char} {part : List Char} (h : separator ∉ part)
    (rest : List Char) :
    splitOn separator (part ++ separator :: rest) = part :: splitOn separator rest := by
  induction part with
  | nil => simp [splitOn]
  | cons c part ih =>
      have hc : c ≠ separator := fun e => h (by simp [e])
      have ih := ih fun hm => h (by simp [hm])
      simp [splitOn, hc, ih]

theorem splitOn_ne_nil (separator : Char) (text : List Char) : splitOn separator text ≠ [] := by
  cases text with
  | nil => simp [splitOn]
  | cons c text =>
      unfold splitOn
      split
      · simp
      · split
        · simp
        · simp

/-- The first part reaches up to the first separator, and the other parts are those of
what follows it. -/
theorem of_splitOn_eq_cons {separator : Char} {text part : List Char}
    {parts : List (List Char)} (h : splitOn separator text = part :: parts) :
    separator ∉ part ∧ (parts = [] ∧ text = part ∨
      ∃ rest, text = part ++ separator :: rest ∧ splitOn separator rest = parts) := by
  induction text generalizing part with
  | nil =>
      cases h
      exact ⟨List.not_mem_nil, Or.inl ⟨rfl, rfl⟩⟩
  | cons c text ih =>
      by_cases here : c = separator
      · subst here
        rw [splitOn, if_pos rfl] at h
        cases h
        exact ⟨List.not_mem_nil, Or.inr ⟨text, rfl, rfl⟩⟩
      · rw [splitOn, if_neg here] at h
        cases tail : splitOn separator text with
        | nil => exact absurd tail (splitOn_ne_nil separator text)
        | cons first others =>
            rw [tail] at h
            cases h
            obtain ⟨clear, whole | ⟨rest, rfl, hrest⟩⟩ := ih tail
            · obtain ⟨rfl, rfl⟩ := whole
              refine ⟨?_, Or.inl ⟨rfl, rfl⟩⟩
              simp [clear, Ne.symm here]
            · refine ⟨?_, Or.inr ⟨rest, rfl, hrest⟩⟩
              simp [clear, Ne.symm here]

/-- A text has three parts if it holds the separator twice. -/
theorem splitOn_eq_three_iff {separator : Char} {text first second third : List Char} :
    splitOn separator text = [first, second, third] ↔
      text = first ++ separator :: (second ++ separator :: third) ∧
        separator ∉ first ∧ separator ∉ second ∧ separator ∉ third := by
  constructor
  · intro h
    obtain ⟨clear₁, ⟨none, -⟩ | ⟨rest₁, rfl, h₁⟩⟩ := of_splitOn_eq_cons h
    · cases none
    obtain ⟨clear₂, ⟨none, -⟩ | ⟨rest₂, rfl, h₂⟩⟩ := of_splitOn_eq_cons h₁
    · cases none
    obtain ⟨clear₃, ⟨-, rfl⟩ | ⟨rest₃, rfl, h₃⟩⟩ := of_splitOn_eq_cons h₂
    · exact ⟨rfl, clear₁, clear₂, clear₃⟩
    · exact absurd h₃ (splitOn_ne_nil separator rest₃)
  · rintro ⟨rfl, clear₁, clear₂, clear₃⟩
    rw [splitOn_append clear₁, splitOn_append clear₂, splitOn_eq_singleton clear₃]

end Text

namespace SystemVersion

/-! ## §2. Spellings. -/

/-- Unsigned numbers of these values, between points. -/
def Components (text : List Char) (major minor revision : UInt8) : Prop :=
  ∃ first second third, text = first ++ '.' :: (second ++ '.' :: third) ∧
    Unsigned 10 first major.toNat ∧ Unsigned 10 second minor.toNat ∧
    Unsigned 10 third revision.toNat

/-- The text spells the version of these components, in any white space. -/
def Spells (input : String) (major minor revision : UInt8) : Prop :=
  ∃ core, Padded core input.toList ∧ Components core major minor revision

/-! ## §3. Reading. -/

theorem readComponent_eq_some_iff {part : List Char} {component : UInt8} :
    readComponent part = some component ↔ Unsigned 10 part component.toNat := by
  have below := component.toNat_lt
  have read {n : Nat} : readUnsigned 10 255 part = .ok n ↔ Unsigned 10 part n ∧ n ≤ 255 :=
    readUnsigned_eq_ok_iff (by decide)
  unfold readComponent
  constructor
  · intro h
    split at h
    · rename_i n hn
      obtain ⟨number, within⟩ := read.mp hn
      cases h
      rwa [UInt8.toNat_ofNat', Nat.mod_eq_of_lt (by omega)]
    · cases h
  · intro number
    rw [read.mpr ⟨number, by omega⟩]
    exact congrArg some UInt8.ofNat_toNat

/-- There is no white space among the components. -/
theorem Components.solid {text : List Char} {major minor revision : UInt8}
    (h : Components text major minor revision) : ∀ c ∈ text, isBlank c = false := by
  obtain ⟨first, second, third, rfl, h₁, h₂, h₃⟩ := h
  intro c hc
  simp only [List.mem_append, List.mem_cons] at hc
  rcases hc with hc | rfl | hc | rfl | hc
  · exact h₁.solid (by decide) c hc
  · rfl
  · exact h₂.solid (by decide) c hc
  · rfl
  · exact h₃.solid (by decide) c hc

theorem spells_iff {input : String} {major minor revision : UInt8} :
    Spells input major minor revision ↔ Components (trim input.toList) major minor revision :=
  exists_padded_iff fun _ => Components.solid

theorem ofChars?_eq_some_iff {input : List Char} {v : SystemVersion} :
    ofChars? input = some v ↔ ∃ major minor revision,
      Components (trim input) major minor revision ∧ v = ofParts major minor revision := by
  unfold ofChars?
  constructor
  · intro h
    split at h
    · rename_i first second third parts
      split at h
      · rename_i major minor revision h₁ h₂ h₃
        cases h
        have joined := (splitOn_eq_three_iff.mp parts).1
        exact ⟨major, minor, revision, ⟨first, second, third, joined,
          readComponent_eq_some_iff.mp h₁, readComponent_eq_some_iff.mp h₂,
          readComponent_eq_some_iff.mp h₃⟩, rfl⟩
      · cases h
    · cases h
  · rintro ⟨major, minor, revision, ⟨first, second, third, joined, h₁, h₂, h₃⟩, rfl⟩
    have clear {part : List Char} {n : Nat} (h : Unsigned 10 part n) : '.' ∉ part :=
      h.not_mem (by decide) (by decide) (by decide)
    have parts : splitOn '.' (trim input) = [first, second, third] :=
      splitOn_eq_three_iff.mpr ⟨joined, clear h₁, clear h₂, clear h₃⟩
    rw [parts]
    simp only [readComponent_eq_some_iff.mpr h₁, readComponent_eq_some_iff.mpr h₂,
      readComponent_eq_some_iff.mpr h₃]

theorem parse_eq_ok_iff {input : String} {v : SystemVersion} :
    parse input = .ok v ↔ ofChars? input.toList = some v := by
  unfold parse
  cases ofChars? input.toList with
  | none => simp
  | some w => simp

/-- **Exactly the spellings of a version are read as it.** -/
theorem parse_eq_ok_iff_spells {input : String} {v : SystemVersion} :
    parse input = .ok v ↔ ∃ major minor revision,
      Spells input major minor revision ∧ v = ofParts major minor revision := by
  simp only [parse_eq_ok_iff, ofChars?_eq_some_iff, spells_iff]

example : parse "\u2003+007.0.0255\n" = .ok (ofParts 7 0 255) := by decide +kernel

/-- A text that spells no version is given back as it is, white space included. -/
theorem parse_eq_error_iff_not_spells {input : String} {e : ParseError} :
    parse input = .error e ↔
      e = ⟨input⟩ ∧ ∀ major minor revision, ¬Spells input major minor revision := by
  have spelled : (∃ v, ofChars? input.toList = some v) ↔
      ∃ major minor revision, Spells input major minor revision := by
    constructor
    · rintro ⟨v, read⟩
      obtain ⟨major, minor, revision, spells, -⟩ :=
        parse_eq_ok_iff_spells.mp (parse_eq_ok_iff.mpr read)
      exact ⟨major, minor, revision, spells⟩
    · rintro ⟨major, minor, revision, spells⟩
      exact ⟨_, parse_eq_ok_iff.mp
        (parse_eq_ok_iff_spells.mpr ⟨major, minor, revision, spells, rfl⟩)⟩
  simp only [← not_exists, ← spelled]
  unfold parse
  cases ofChars? input.toList with
  | none => simp [eq_comm]
  | some v => simp

end SystemVersion

end Horizon
