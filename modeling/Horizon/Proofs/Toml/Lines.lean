/-
  Horizon.Proofs.Toml.Lines
  ─────────────────────────
  **LINES OF TOML READ BACK AS STATEMENTS.**

  The writer produces three kinds of lines:

      (empty)          nothing
      [name.name]      opens a table
      name = value     adds a value to the open table

  `Reads lines statements` relates such lines to what they state, line by line, and the
  reader finds exactly these statements in the text of the lines.
-/
import Horizon.Proofs.Toml.Quoted
import Horizon.Proofs.Toml.Scalar

namespace Horizon

/-! ## §1. Values on a line. -/

/-- A value that has a form on a line of its own, and that can be read back from it. -/
def Document.Legible : Document → Prop
  | .boolean _ => True
  | .text _ => True
  | .integer value => -2 ^ 63 ≤ value ∧ value < 2 ^ 63
  | .double value => value.datum.IsFinite
  | .single value => value.datum.IsFinite
  | _ => False

/-- What a value is read back as: the notation has one format of floating-point numbers. -/
def Document.asRead : Document → Document
  | .single value => .double value.toDouble
  | value => value

namespace Toml

open Binary Text

theorem endsWord_newline (rest : List Char) : EndsWord ('\n' :: rest) := by
  rintro c tail ⟨⟩
  rfl

/-- A value that starts like a word is a scalar without quotes. -/
theorem readValue_word {c : Char} (hc : isWordChar c) (text : List Char) (fuel depth : Nat) :
    readValue (fuel + 1) depth (c :: text) = readScalar (c :: text) := by
  have hne : ∀ d : Char, isWordChar d = false → c ≠ d := by
    rintro d hd rfl
    rw [hc] at hd
    exact absurd hd (by decide)
  rw [readValue]
  · rintro tail ⟨⟩
    exact hne '"' (by decide) rfl
  · rintro tail ⟨⟩
    exact hne '\'' (by decide) rfl
  · rintro tail ⟨⟩
    exact hne '[' (by decide) rfl
  · rintro tail ⟨⟩
    exact hne '\x7b' (by decide) rfl

/-- The text of a value on a line: it starts with no blank and reads back. -/
structure ReadsValue (text : String) (value : Document) : Prop where
  starts : ∃ c cs, text.toList = c :: cs ∧ isSpace c = false
  reads : ∀ fuel depth rest, readValue (fuel + 1) depth (text.toList ++ '\n' :: rest)
    = some (value, '\n' :: rest)

/-- A scalar without quotes reads back as a value of a line. -/
theorem readsValue_of_word {text : String} {value : Document} {c : Char} {cs : List Char}
    (ht : text.toList = c :: cs) (hc : isWordChar c)
    (h : ∀ rest, readScalar (text.toList ++ '\n' :: rest) = some (value, '\n' :: rest)) :
    ReadsValue text value := by
  refine ⟨⟨c, cs, ht, ?_⟩, fun fuel depth rest => ?_⟩
  · cases hspace : isSpace c with
    | false => rfl
    | true =>
        simp only [isSpace, Bool.or_eq_true, decide_eq_true_eq] at hspace
        rcases hspace with rfl | rfl <;> exact absurd hc (by decide)
  · have hread := h rest
    rw [ht, List.cons_append] at hread ⊢
    rw [readValue_word hc, hread]

theorem isWordChar_signChars {negative : Bool} {body : List Char} {d : Char}
    (hd : d.isDigit) (hbody : body.head? = some d) :
    ∃ c cs, signChars negative ++ body = c :: cs ∧ isWordChar c := by
  cases body with
  | nil => cases hbody
  | cons b body =>
      cases hbody
      cases negative with
      | false => exact ⟨d, body, rfl, by simp [isWordChar, Char.isAlphanum, hd]⟩
      | true => exact ⟨'-', d :: body, rfl, by decide⟩

theorem readsValue_double {x : Double} (h : x.datum.IsFinite) :
    ReadsValue (numberStyle.text .double x.datum) (.double x) := by
  obtain ⟨negative, d, whole, fraction, hwritten, htext, -⟩ := exists_shown h
  obtain ⟨w, ws, hwhole⟩ := List.exists_cons_of_ne_nil hwritten.whole_ne_nil
  obtain ⟨c, cs, hshape, hc⟩ := @isWordChar_signChars negative (whole ++ '.' :: fraction) w
    (hwritten.wholeDigits w (by rw [hwhole]; simp)) (by rw [hwhole]; rfl)
  rw [← htext] at hshape
  exact readsValue_of_word hshape hc fun rest =>
    readScalar_double h (endsWord_newline rest)

/-- **A value reads back from its text.** -/
theorem exists_readsValue {value : Document} (h : value.Legible) :
    ∃ text, scalarText value = .ok text ∧ ReadsValue text value.asRead := by
  cases value with
  | boolean value =>
      have hshape : ∃ c cs, (if value then "true" else "false").toList = c :: cs ∧
          isWordChar c := by
        cases value <;> exact ⟨_, _, rfl, by decide⟩
      obtain ⟨c, cs, hshape, hc⟩ := hshape
      exact ⟨_, rfl, readsValue_of_word hshape hc fun rest =>
        readScalar_boolean value (endsWord_newline rest)⟩
  | integer value =>
      obtain ⟨hl, hu⟩ := h
      obtain ⟨d, ds, hdigits⟩ := List.exists_cons_of_ne_nil (decimal_ne_nil value.natAbs)
      obtain ⟨c, cs, hshape, hc⟩ := @isWordChar_signChars (decide (value < 0))
        (decimal value.natAbs) d (allDigits_decimal _ d (by rw [hdigits]; simp))
        (by rw [hdigits]; rfl)
      rw [← signedDecimal_eq] at hshape
      refine ⟨String.ofList (signedDecimal value), if_pos ⟨hl, hu⟩, ?_⟩
      refine readsValue_of_word (by rw [String.toList_ofList]; exact hshape) hc fun rest => ?_
      rw [String.toList_ofList]
      exact readScalar_integer hl hu (endsWord_newline rest)
  | double value => exact ⟨_, rfl, readsValue_double h⟩
  | single value => exact ⟨_, rfl, readsValue_double (Single.toSingle_toDouble h).1⟩
  | text value =>
      refine ⟨quoted value, rfl, ⟨'"', _, by rw [quoted, String.toList_ofList], by decide⟩, ?_⟩
      intro fuel depth rest
      have hread := @readQuoted_quoted value ('\n' :: rest) (by simp)
      have hshape : (quoted value).toList ++ '\n' :: rest
          = '"' :: (value.toList.flatMap escapeChar ++ '"' :: '\n' :: rest) := by
        simp [quoted]
      rw [hshape] at hread ⊢
      rw [readValue, hread, Option.map_some, String.ofList_toList]
      rfl
  | null => exact h.elim
  | timestamp _ => exact h.elim
  | list _ => exact h.elim
  | rows _ => exact h.elim
  | table _ => exact h.elim

/-! ## §2. Lines. -/

/-- The text of lines, each with its line feed. -/
def lineChars (lines : List String) : List Char :=
  lines.flatMap fun line => line.toList ++ ['\n']

/-- What lines state. -/
inductive Reads : List String → List Statement → Prop where
  | nil : Reads [] []
  /-- An empty line states nothing. -/
  | blank {lines statements} (more : Reads lines statements) : Reads ("" :: lines) statements
  /-- A header opens a table. -/
  | header {lines statements} {path : List String} {name : String}
      (keys : ∀ key ∈ path, BareKey key) (key : BareKey name) (short : path.length < 79)
      (more : Reads lines statements) :
      Reads (("[" ++ ".".intercalate (path ++ [name]) ++ "]") :: lines)
        (.table (path ++ [name]) :: statements)
  /-- A key and its value. -/
  | entry {lines statements} {name text : String} {value : Document} (key : BareKey name)
      (reads : ReadsValue text value) (more : Reads lines statements) :
      Reads (s!"{name} = {text}" :: lines) (.entry [] name value :: statements)

theorem Reads.append {lines more : List String} {statements others : List Statement}
    (h : Reads lines statements) (hm : Reads more others) :
    Reads (lines ++ more) (statements ++ others) := by
  induction h with
  | nil => exact hm
  | blank _ ih => exact .blank ih
  | header keys key short _ ih => exact .header keys key short ih
  | entry key reads _ ih => exact .entry key reads ih

/-- The first character of a key. -/
theorem BareKey.head {name : String} (h : BareKey name) :
    ∃ c cs, name.toList = c :: cs ∧ isKeyChar c := by
  obtain ⟨c, cs, hname⟩ := List.exists_cons_of_ne_nil h.ne_nil
  exact ⟨c, cs, hname, h.chars c (by rw [hname]; simp)⟩

/-- The first character of a path. -/
theorem path_head {path : List String} {name : String} (keys : ∀ key ∈ path, BareKey key)
    (key : BareKey name) :
    ∃ c cs, ['.'].intercalate ((path ++ [name]).map String.toList) = c :: cs ∧ isKeyChar c := by
  cases path with
  | nil => simpa using key.head
  | cons first path =>
      obtain ⟨c, cs, hname, hc⟩ := (keys first (by simp)).head
      rw [List.cons_append, List.map_cons, List.intercalate_cons_of_ne_nil (by simp), hname]
      exact ⟨c, _, rfl, hc⟩

theorem readHeader_line {path : List String} {name : String}
    (keys : ∀ key ∈ path, BareKey key) (key : BareKey name) (short : path.length < 79)
    (rest : List Char) :
    readHeader (['.'].intercalate ((path ++ [name]).map String.toList) ++ ']' :: '\n' :: rest)
      = some (.table (path ++ [name]), rest) := by
  have hread := @readKey_path path keys name key (']' :: '\n' :: rest)
    (by rintro c tail ⟨⟩; rfl) (by simp [skipSpaces_cons (show isSpace ']' = false by decide)])
    depthLimit.pred short
  rw [skipSpaces_cons (show isSpace ']' = false by decide)] at hread
  obtain ⟨c, cs, hpath, hc⟩ := path_head keys key
  unfold readHeader
  split
  · -- no second bracket
    rename_i tail htail
    rw [hpath] at htail
    simp only [List.cons_append, List.cons.injEq] at htail
    rw [htail.1] at hc
    exact absurd hc (by decide)
  · simp only [hread, bind, Option.bind]
    rfl

theorem readEntry_line {name text : String} {value : Document} (key : BareKey name)
    (reads : ReadsValue text value) (rest : List Char) :
    readEntry (name.toList ++ ' ' :: '=' :: ' ' :: (text.toList ++ '\n' :: rest))
      = some (.entry [] name value, rest) := by
  have hread := @readKey_path [] (by simp) name key
    (' ' :: '=' :: ' ' :: (text.toList ++ '\n' :: rest)) (by rintro c tail ⟨⟩; rfl)
    (by simp [skipSpaces, isSpace]) depthLimit.pred (by decide)
  rw [List.nil_append, List.map_singleton, List.intercalate_singleton] at hread
  have hequals : skipSpaces (' ' :: '=' :: ' ' :: (text.toList ++ '\n' :: rest))
      = '=' :: ' ' :: (text.toList ++ '\n' :: rest) := by
    simp [skipSpaces, isSpace]
  have hvalue : skipSpaces (' ' :: (text.toList ++ '\n' :: rest))
      = text.toList ++ '\n' :: rest := by
    obtain ⟨c, cs, htext, hc⟩ := reads.starts
    rw [htext]
    simp [skipSpaces, isSpace] at hc ⊢
    simp [hc]
  unfold readEntry
  simp only [hread, hequals, hvalue, reads.reads, bind, Option.bind]
  rfl

/-- A line that starts like a key is none of the other kinds of lines. -/
theorem readStatements_key {c : Char} (hc : isKeyChar c) (text : List Char) (fuel : Nat) :
    readStatements (fuel + 1) (c :: text) = (do
      let (statement, rest) ← readEntry (c :: text)
      some (statement :: (← readStatements fuel rest))) := by
  have hne : ∀ d : Char, isKeyChar d = false → c ≠ d := by
    rintro d hd rfl
    rw [hc] at hd
    exact absurd hd (by decide)
  have hspace : isSpace c = false := by
    cases hspace : isSpace c with
    | false => rfl
    | true => exact absurd hc (by rw [not_isKeyChar_of_isSpace hspace]; decide)
  rw [readStatements, skipSpaces_cons hspace]
  split
  · rename_i heq
    cases heq
  · rename_i heq
    cases heq
    exact absurd rfl (hne '#' (by decide))
  · rename_i heq
    cases heq
    exact absurd rfl (hne '\n' (by decide))
  · rename_i heq
    cases heq
    exact absurd rfl (hne '\r' (by decide))
  · rename_i heq
    cases heq
    exact absurd rfl (hne '[' (by decide))
  · rfl

/-- **The reader finds what the lines state.** -/
theorem readStatements_lines {lines : List String} {statements : List Statement}
    (h : Reads lines statements) {fuel : Nat} (hf : lines.length < fuel) :
    readStatements fuel (lineChars lines) = some statements := by
  -- each line uses up one step of the reader's fuel
  induction h generalizing fuel with
  | nil =>
      obtain ⟨fuel, rfl⟩ : ∃ f, fuel = f + 1 := ⟨fuel - 1, by omega⟩
      rfl
  | @blank lines statements _ ih =>
      obtain ⟨fuel, rfl⟩ : ∃ f, fuel = f + 1 := ⟨fuel - 1, by omega⟩
      have ih := @ih fuel (by simpa using hf)
      have hshape : lineChars ("" :: lines) = '\n' :: lineChars lines := by
        simp [lineChars]
      rw [hshape, readStatements, skipSpaces_cons (by decide)]
      exact ih
  | @header lines statements path name keys key short _ ih =>
      obtain ⟨fuel, rfl⟩ : ∃ f, fuel = f + 1 := ⟨fuel - 1, by omega⟩
      have ih := @ih fuel (by simpa using hf)
      have hshape : lineChars (("[" ++ ".".intercalate (path ++ [name]) ++ "]") :: lines)
          = '[' :: (['.'].intercalate ((path ++ [name]).map String.toList)
            ++ ']' :: '\n' :: lineChars lines) := by
        simp [lineChars]
      rw [hshape, readStatements, skipSpaces_cons (by decide)]
      simp only [readHeader_line keys key short, ih, bind, Option.bind]
  | @entry lines statements name text value key reads _ ih =>
      obtain ⟨fuel, rfl⟩ : ∃ f, fuel = f + 1 := ⟨fuel - 1, by omega⟩
      have ih := @ih fuel (by simpa using hf)
      have hname : toString name = name := rfl
      have htext : toString text = text := rfl
      have hequals : (toString " = ").toList = [' ', '=', ' '] := rfl
      have hshape : lineChars (s!"{name} = {text}" :: lines)
          = name.toList ++ ' ' :: '=' :: ' ' :: (text.toList ++ '\n' :: lineChars lines) := by
        simp [lineChars, hname, htext, hequals]
      obtain ⟨c, cs, hc, hkey⟩ := key.head
      have hread := readEntry_line key reads (lineChars lines)
      rw [hc, List.cons_append] at hread hshape
      rw [hshape, readStatements_key hkey]
      simp only [hread, ih, bind, Option.bind]

end Toml

end Horizon
