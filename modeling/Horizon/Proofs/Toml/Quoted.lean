/-
  Horizon.Proofs.Toml.Quoted
  ──────────────────────────
  **QUOTED TEXTS AND BARE KEYS IN TOML READ BACK.**

  The reader turns what is written for one character into that character, so it turns
  what is written for a text into the text.  The second quote of the empty text does not
  open a text of several lines, since no third one follows it.
-/
import Horizon.Document.Toml.Reader
import Horizon.Document.Toml.Writer

namespace Horizon.Toml

open Text

/-! ## §1. Escapes. -/

/-- The digits of a character below 128. -/
theorem digits_control : ∀ n < 128,
    (('0' :: '0' :: fixedHex upperHexDigit 2 n).all fun c => (digitValue? 16 c).isSome) = true ∧
      (readMagnitude 16 0xFFFFFFFF .tooLarge ('0' :: '0' :: fixedHex upperHexDigit 2 n)).toOption
        = some n := by
  decide +kernel

/-- The four digits of a control character name it. -/
theorem readCode_control {n : Nat} (hn : n < 128) (rest : List Char) :
    readCode 4 ('0' :: '0' :: (fixedHex upperHexDigit 2 n ++ rest))
      = some (Char.ofNat n, rest) := by
  obtain ⟨hall, hread⟩ := digits_control n hn
  have hlength : ('0' :: '0' :: fixedHex upperHexDigit 2 n).length = 4 := rfl
  have htake : ('0' :: '0' :: (fixedHex upperHexDigit 2 n ++ rest)).take 4
      = '0' :: '0' :: fixedHex upperHexDigit 2 n := rfl
  have hdrop : ('0' :: '0' :: (fixedHex upperHexDigit 2 n ++ rest)).drop 4 = rest := rfl
  have hscalar : scalarChar? n = some (Char.ofNat n) := by
    unfold scalarChar?
    rw [if_pos (by simp; omega)]
  unfold readCode
  simp only [htake, hdrop, hlength, hall, decide_true, Bool.and_self, if_true]
  cases hcode : readMagnitude 16 0xFFFFFFFF .tooLarge ('0' :: '0' :: fixedHex upperHexDigit 2 n) with
  | error e =>
      rw [hcode] at hread
      cases hread
  | ok code =>
      rw [hcode] at hread
      cases hread
      simp [hscalar]

/-- **A character reads back from what is written for it.** -/
theorem readBasic_escapeChar (c : Char) (fuel : Nat) (tail : List Char) :
    readBasic (fuel + 1) (escapeChar c ++ tail)
      = (readBasic fuel tail).map fun r => (c :: r.1, r.2) := by
  have hof : ∀ n, c.toNat = n → Char.ofNat n = c := fun n h => by rw [← h, Char.ofNat_toNat]
  have hfinish : ∀ d : Char, d = c →
      ((readBasic fuel tail).bind fun r => some (d :: r.1, r.2))
        = (readBasic fuel tail).map fun r => (c :: r.1, r.2) := by
    rintro d rfl
    cases readBasic fuel tail <;> rfl
  unfold escapeChar
  -- one case for each escape, in the order in which the writer asks for them
  by_cases hquote : c = '"'
  · rw [if_pos hquote]
    exact hfinish _ hquote.symm
  rw [if_neg hquote]
  by_cases hslash : c = '\\'
  · rw [if_pos hslash]
    exact hfinish _ hslash.symm
  rw [if_neg hslash]
  by_cases hfeed : c = '\n'
  · rw [if_pos hfeed]
    exact hfinish _ hfeed.symm
  rw [if_neg hfeed]
  by_cases hreturn : c = '\r'
  · rw [if_pos hreturn]
    exact hfinish _ hreturn.symm
  rw [if_neg hreturn]
  by_cases htab : c = '\t'
  · rw [if_pos htab]
    exact hfinish _ htab.symm
  rw [if_neg htab]
  by_cases hback : c.toNat = 8
  · rw [if_pos hback]
    exact hfinish _ (hof 8 hback)
  rw [if_neg hback]
  by_cases hform : c.toNat = 12
  · rw [if_pos hform]
    exact hfinish _ (hof 12 hform)
  rw [if_neg hform]
  by_cases hcontrol : (c.toNat < 0x20 || c.toNat = 0x7F) = true
  · rw [if_pos hcontrol]
    have hsmall : c.toNat < 128 := by
      simp at hcontrol
      omega
    have hcode := readCode_control hsmall tail
    rw [Char.ofNat_toNat] at hcode
    show ((readCode 4 ('0' :: '0' :: (fixedHex upperHexDigit 2 c.toNat ++ tail))).bind
      fun s => (readBasic fuel s.2).bind fun r => some (s.1 :: r.1, r.2)) = _
    rw [hcode]
    exact hfinish _ rfl
  · rw [if_neg hcontrol]
    have hplain : isPlain c := by
      simp at hcontrol
      simp [isPlain]
      omega
    rw [List.singleton_append, readBasic]
    · rw [if_pos hplain]
      exact hfinish _ rfl
    · exact hquote
    · exact hslash

/-- **An escaped text reads back.** -/
theorem readBasic_escaped (text rest : List Char) {fuel : Nat} (hf : text.length < fuel) :
    readBasic fuel (text.flatMap escapeChar ++ '"' :: rest) = some (text, rest) := by
  induction text generalizing fuel with
  | nil =>
      obtain ⟨fuel, rfl⟩ : ∃ f, fuel = f + 1 := ⟨fuel - 1, by omega⟩
      rfl
  | cons c text ih =>
      obtain ⟨fuel, rfl⟩ : ∃ f, fuel = f + 1 := ⟨fuel - 1, by omega⟩
      have hf : text.length < fuel := by simpa using hf
      rw [List.flatMap_cons, List.append_assoc, readBasic_escapeChar, ih hf]
      rfl

theorem length_escaped (text : List Char) : text.length ≤ (text.flatMap escapeChar).length := by
  have hone : ∀ c, 1 ≤ (escapeChar c).length := by
    intro c
    unfold escapeChar
    repeat' split
    all_goals simp
  induction text with
  | nil => simp
  | cons c text ih =>
      have := hone c
      simp only [List.flatMap_cons, List.length_cons, List.length_append]
      omega

/-- What is written for a character starts with no quote. -/
theorem escapeChar_head (c : Char) : ∃ d ds, escapeChar c = d :: ds ∧ d ≠ '"' := by
  unfold escapeChar
  by_cases hquote : c = '"'
  · exact ⟨'\\', ['"'], if_pos hquote, by decide⟩
  · rw [if_neg hquote]
    repeat' split
    all_goals first
      | exact ⟨_, _, rfl, by decide⟩
      | exact ⟨_, _, rfl, hquote⟩

/-- **A quoted text reads back.** -/
theorem readQuoted_quoted (text : String) {rest : List Char} (hr : rest.head? ≠ some '"') :
    readQuoted ((quoted text).toList ++ rest) = some (text.toList, rest) := by
  have hlength := length_escaped text.toList
  have hbasic : readBasic ((text.toList.flatMap escapeChar ++ '"' :: rest).length + 1)
      (text.toList.flatMap escapeChar ++ '"' :: rest) = some (text.toList, rest) := by
    refine readBasic_escaped text.toList rest ?_
    rw [List.length_append]
    omega
  have htext : (quoted text).toList ++ rest
      = '"' :: (text.toList.flatMap escapeChar ++ '"' :: rest) := by
    simp [quoted]
  rw [htext]
  cases hchars : text.toList with
  | nil =>
      -- the empty text: two quotes and no third
      rw [hchars, List.flatMap_nil, List.nil_append] at hbasic
      rw [List.flatMap_nil, List.nil_append]
      cases rest with
      | nil => rfl
      | cons d rest =>
          have hd : d ≠ '"' := fun e => hr (by simp [e])
          rw [readQuoted]
          · exact hbasic
          · intro tail h
            simp only [List.cons.injEq, true_and] at h
            exact hd h.1
  | cons c cs =>
      obtain ⟨d, ds, hds, hd⟩ := escapeChar_head c
      have hshape : (c :: cs).flatMap escapeChar ++ '"' :: rest
          = d :: (ds ++ cs.flatMap escapeChar ++ '"' :: rest) := by
        simp [hds]
      rw [hchars, hshape] at hbasic
      rw [hshape, readQuoted]
      · exact hbasic
      · intro tail h
        simp only [List.cons.injEq] at h
        exact hd h.1

/-! ## §2. Keys. -/

/-- A name that stands for itself as a key. -/
structure BareKey (name : String) : Prop where
  ne_nil : name.toList ≠ []
  chars : ∀ c ∈ name.toList, isKeyChar c

instance (name : String) : Decidable (BareKey name) :=
  decidable_of_iff (name.toList ≠ [] ∧ name.toList.all isKeyChar)
    ⟨fun h => ⟨h.1, List.all_eq_true.mp h.2⟩, fun h => ⟨h.ne_nil, List.all_eq_true.mpr h.chars⟩⟩

/-- No key goes on into the text. -/
def EndsKey (rest : List Char) : Prop :=
  ∀ c tail, rest = c :: tail → isKeyChar c = false

theorem not_isKeyChar_of_isSpace {c : Char} (h : isSpace c) : isKeyChar c = false := by
  simp only [isSpace, Bool.or_eq_true, decide_eq_true_eq] at h
  rcases h with rfl | rfl <;> decide

theorem skipSpaces_cons {c : Char} (h : isSpace c = false) (rest : List Char) :
    skipSpaces (c :: rest) = c :: rest := by
  simp [skipSpaces, h]

theorem BareKey.skipSpaces {name : String} (h : BareKey name) (rest : List Char) :
    skipSpaces (name.toList ++ rest) = name.toList ++ rest := by
  obtain ⟨c, cs, hname⟩ := List.exists_cons_of_ne_nil h.ne_nil
  have hc : isSpace c = false := by
    have hkey := h.chars c (by rw [hname]; simp)
    cases hspace : isSpace c with
    | false => rfl
    | true =>
        rw [not_isKeyChar_of_isSpace hspace] at hkey
        exact absurd hkey (by decide)
  rw [hname, List.cons_append, skipSpaces_cons hc]

theorem readPart_bare {name : String} (h : BareKey name) {rest : List Char}
    (hr : EndsKey rest) : readPart (name.toList ++ rest) = some (name, rest) := by
  obtain ⟨c, cs, hname⟩ := List.exists_cons_of_ne_nil h.ne_nil
  have hkey := h.chars c (by rw [hname]; simp)
  have hquote : c ≠ '"' := by
    rintro rfl
    exact absurd hkey (by decide)
  have hapostrophe : c ≠ '\'' := by
    rintro rfl
    exact absurd hkey (by decide)
  have htake : (name.toList ++ rest).takeWhile isKeyChar = name.toList := by
    rw [List.takeWhile_append_of_pos h.chars]
    cases rest with
    | nil => simp
    | cons c rest => simp [hr c rest rfl]
  have hdrop : (name.toList ++ rest).dropWhile isKeyChar = rest := by
    rw [List.dropWhile_append_of_pos h.chars]
    cases rest with
    | nil => simp
    | cons c rest => simp [hr c rest rfl]
  have hread : readPart (name.toList ++ rest)
      = if ((name.toList ++ rest).takeWhile isKeyChar).isEmpty then none
        else some (String.ofList ((name.toList ++ rest).takeWhile isKeyChar),
          (name.toList ++ rest).dropWhile isKeyChar) := by
    rw [hname, List.cons_append, readPart]
    · rintro tail ⟨⟩
      exact hquote rfl
    · rintro tail ⟨⟩
      exact hapostrophe rfl
  rw [hread, htake, hdrop, if_neg (by simp [h.ne_nil]), String.ofList_toList]

/-- **Names with points between them read back** as the path that they make. -/
theorem readKey_path {path : List String} (hb : ∀ name ∈ path, BareKey name) {last : String}
    (hl : BareKey last) {rest : List Char} (hr : EndsKey rest)
    (hd : (skipSpaces rest).head? ≠ some '.') {fuel : Nat} (hf : path.length < fuel) :
    readKey fuel (['.'].intercalate ((path ++ [last]).map String.toList) ++ rest)
      = some (path, last, skipSpaces rest) := by
  induction path generalizing fuel with
  | nil =>
      obtain ⟨fuel, rfl⟩ : ∃ f, fuel = f + 1 := ⟨fuel - 1, by omega⟩
      rw [List.nil_append, List.map_singleton, List.intercalate_singleton, readKey,
        hl.skipSpaces, readPart_bare hl hr]
      simp only [bind, Option.bind]
      split
      · rename_i tail htail
        exact absurd (by rw [htail]; rfl) hd
      · rfl
  | cons name path ih =>
      obtain ⟨fuel, rfl⟩ : ∃ f, fuel = f + 1 := ⟨fuel - 1, by omega⟩
      have hname := hb name (by simp)
      have ih := @ih (fun n hn => hb n (by simp [hn])) fuel (by simpa using hf)
      have hends : ∀ tail, EndsKey ('.' :: tail) := by
        rintro tail c cs ⟨⟩
        rfl
      have hsplit : ['.'].intercalate ((name :: path ++ [last]).map String.toList) ++ rest
          = name.toList
            ++ '.' :: (['.'].intercalate ((path ++ [last]).map String.toList) ++ rest) := by
        rw [List.cons_append, List.map_cons, List.intercalate_cons_of_ne_nil (by simp)]
        simp
      rw [hsplit, readKey, hname.skipSpaces, readPart_bare hname (hends _)]
      simp only [bind, Option.bind, skipSpaces_cons (show isSpace '.' = false by decide), ih]

end Horizon.Toml
