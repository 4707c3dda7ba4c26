/-
  Horizon.Proofs.Json.Reading
  ───────────────────────────
  **DOCUMENTS READ BACK FROM THEIR JSON TEXT.**

  A document on one line is read as some document if the reader, started at it, returns
  that one and stops where the line is closed.  Lists and tables are read as what their
  parts are read as; a table comes back in the order of its names:

      true, 17, "on"          the same
      [a, b]                  [a', b']                if a and b are read as a' and b'
      {"y": a, "x": b}        {"x": b', "y": a'}

  The fuel of the reader is more than the length of the text, and every part of a text is
  shorter than the text by the signs around it.
-/
import Horizon.Proofs.Json.Number
import Horizon.Proofs.Json.Quoted
import Mathlib.Data.List.DropRight
import Mathlib.Data.List.Forall2

namespace Horizon.Json

open Text

/-! ## §1. Blanks. -/

/-- The characters that are skipped. -/
def isBlank (c : Char) : Bool := c = ' ' || c = '\n' || c = '\r' || c = '\t'

theorem skip_cons {c : Char} (other : ¬isBlank c = true) (text : List Char) :
    skip (c :: text) = c :: text :=
  List.dropWhile_cons_of_neg other

theorem skip_skip (text : List Char) : skip (skip text) = skip text :=
  List.dropWhile_idempotent isBlank text

theorem skip_append_of_blank {text : List Char} (blank : skip text = []) (rest : List Char) :
    skip (text ++ rest) = skip rest := by
  unfold skip at *
  rw [List.dropWhile_append, blank]
  rfl

theorem skip_append {text : List Char} (solid : skip text ≠ []) (rest : List Char) :
    skip (text ++ rest) = skip text ++ rest := by
  unfold skip at *
  rw [List.dropWhile_append, if_neg (by rwa [List.isEmpty_iff])]

/-- Blanks in front do not matter. -/
theorem readValue_skip (fuel : Nat) (text : List Char) :
    readValue fuel (skip text) = readValue fuel text := by
  cases fuel with
  | zero => rfl
  | succ fuel => simp only [readValue, skip_skip]

theorem readItems_skip (fuel : Nat) (text : List Char) :
    readItems fuel (skip text) = readItems fuel text := by
  cases fuel with
  | zero => rfl
  | succ fuel => simp only [readItems, readValue_skip]

/-- No item starts with the bracket that closes a list. -/
theorem readItems_bracket {text tail : List Char} (bracket : skip text = ']' :: tail)
    (fuel : Nat) : readItems fuel text = none := by
  cases fuel with
  | zero => rfl
  | succ fuel =>
      have none : readValue fuel text = none := by
        cases fuel with
        | zero => rfl
        | succ fuel =>
            rw [readValue, bracket]
            rfl
      rw [readItems, none]
      rfl

/-! ## §2. Reading as. -/

/-- Started at the text of the document, the reader returns the other document and stops
where the text is closed. -/
def ReadAs (document read : Document) : Prop :=
  ∀ fuel rest, (compact document).toList.length < fuel → Closes rest →
    ∃ left, readValue fuel ((compact document).toList ++ rest) = some (read, left)
      ∧ skip left = skip rest

/-- **The text of a document that is read as another parses as that one.** -/
theorem ReadAs.parse {document read : Document} (h : ReadAs document read) :
    parse (compact document) = some read := by
  obtain ⟨left, value, skipped⟩ := h ((compact document).toList.length + 1) []
    (Nat.lt_succ_self _) .nothing
  rw [List.append_nil] at value
  unfold Json.parse
  dsimp only
  rw [value]
  show (if (skip left).isEmpty = true then some read else none) = some read
  rw [skipped]
  rfl

/-! ## §3. Scalars. -/

theorem readAs_boolean (value : Bool) : ReadAs (.boolean value) (.boolean value) := by
  intro fuel rest enough _
  obtain ⟨fuel, rfl⟩ : ∃ f, fuel = f + 1 := ⟨fuel - 1, by omega⟩
  cases value <;> exact ⟨rest, rfl, rfl⟩

theorem readAs_text (value : String) : ReadAs (.text value) (.text value) := by
  intro fuel rest enough _
  obtain ⟨fuel, rfl⟩ : ∃ f, fuel = f + 1 := ⟨fuel - 1, by omega⟩
  obtain ⟨body, quoted, read⟩ := readText_quoted value rest
  refine ⟨rest, ?_, rfl⟩
  show readValue (fuel + 1) ((Json.quoted value).toList ++ rest) = _
  rw [quoted]
  show ((readText (body.length + 1) body).bind fun r =>
    some (Document.text (String.ofList r.1), r.2)) = _
  rw [read, Option.bind_some, String.ofList_toList]

/-- A text that is read as a number starts with a digit or a minus sign. -/
theorem head_of_readNumber {text left : List Char} {document : Document}
    (h : readNumber text = some (document, left)) :
    ∃ c tail, text = c :: tail ∧ (c = '-' ∨ c.isDigit = true) := by
  cases text with
  | nil => cases h
  | cons c tail =>
      refine ⟨c, tail, rfl, ?_⟩
      by_cases minus : c = '-'
      · exact .inl minus
      · by_cases digit : c.isDigit = true
        · exact .inr digit
        · -- without a first digit there is no whole part
          have none : readWhole (c :: tail) = none := by
            unfold readWhole takeDigits
            rw [List.takeWhile_cons_of_neg digit]
            rfl
          rw [readNumber_eq, takeSign_unsigned minus, readParts, none] at h
          cases h

/-- What a number starts with is none of the other characters that values start with, and
no blank. -/
theorem ne_of_head {c d : Char} (first : c = '-' ∨ c.isDigit = true)
    (nondigit : d.isDigit = false) (nonminus : d ≠ '-') : c ≠ d := by
  rcases first with rfl | digit
  · exact nonminus.symm
  · exact ne_of_isDigit digit nondigit

theorem skip_of_readNumber {text left : List Char} {document : Document}
    (h : readNumber text = some (document, left)) : skip text = text := by
  obtain ⟨c, tail, rfl, first⟩ := head_of_readNumber h
  refine skip_cons ?_ tail
  simp only [isBlank, Bool.or_eq_true, decide_eq_true_eq]
  rintro (((space | feed) | carriage) | tab)
  · exact ne_of_head first rfl (by decide) space
  · exact ne_of_head first rfl (by decide) feed
  · exact ne_of_head first rfl (by decide) carriage
  · exact ne_of_head first rfl (by decide) tab

/-- A value that starts like a number is read as one. -/
theorem readValue_number {text left : List Char} {document : Document}
    (h : readNumber text = some (document, left)) (fuel : Nat) :
    readValue (fuel + 1) text = some (document, left) := by
  have solid := skip_of_readNumber h
  obtain ⟨c, tail, rfl, first⟩ := head_of_readNumber h
  unfold readValue
  rw [solid]
  split
  next same => exact absurd (List.cons.inj same).1 (ne_of_head first rfl (by decide))
  next same => exact absurd (List.cons.inj same).1 (ne_of_head first rfl (by decide))
  next same => exact absurd (List.cons.inj same).1 (ne_of_head first rfl (by decide))
  next same => exact absurd (List.cons.inj same).1 (ne_of_head first rfl (by decide))
  next same => exact absurd (List.cons.inj same).1 (ne_of_head first rfl (by decide))
  next same => exact absurd (List.cons.inj same).1 (ne_of_head first rfl (by decide))
  next => exact h

/-- **A number that is read from a text of its own is read as the same in front of what
closes it.** -/
theorem readAs_of_readNumber {document read : Document} {left : List Char}
    (h : readNumber (skip (compact document).toList) = some (read, left))
    (blank : skip left = []) : ReadAs document read := by
  intro fuel rest enough closes
  obtain ⟨fuel, rfl⟩ : ∃ f, fuel = f + 1 := ⟨fuel - 1, by omega⟩
  have solid : skip (compact document).toList ≠ [] := by
    obtain ⟨c, tail, first, -⟩ := head_of_readNumber h
    rw [first]
    exact List.cons_ne_nil c tail
  -- behind the number there may be blanks of its own; they are skipped with the rest
  refine ⟨left ++ rest, ?_, skip_append_of_blank blank rest⟩
  rw [← readValue_skip, skip_append solid]
  exact readValue_number (readNumber_append closes h) fuel

theorem readAs_integer {n : Int} (least : -2 ^ 63 ≤ n) (most : n < 2 ^ 64) :
    ReadAs (.integer n) (.integer n) := by
  have number := readNumber_signedDecimal least most
  have text : (compact (.integer n)).toList = signedDecimal n := String.toList_ofList
  refine @readAs_of_readNumber _ _ [] ?_ rfl
  rw [text, skip_of_readNumber number, number]

/-- The document is a number. -/
def IsNumber : Document → Prop
  | .integer _ => True
  | .double _ => True
  | .single _ => True
  | _ => False

/-- Only numbers are read as numbers. -/
theorem readNumber_of_readValue {fuel : Nat} {text left : List Char} {document : Document}
    (h : readValue fuel text = some (document, left)) (number : IsNumber document) :
    readNumber (skip text) = some (document, left) := by
  cases fuel with
  | zero => cases h
  | succ fuel =>
      unfold readValue at h
      split at h
      next =>
        cases h
        cases number
      next =>
        cases h
        cases number
      next =>
        cases h
        cases number
      next =>
        obtain ⟨_, -, h⟩ := Option.bind_eq_some_iff.mp h
        cases h
        cases number
      next =>
        split at h
        · cases h
          cases number
        · obtain ⟨_, -, h⟩ := Option.bind_eq_some_iff.mp h
          cases h
          cases number
      next =>
        split at h
        · cases h
          cases number
        · obtain ⟨_, -, h⟩ := Option.bind_eq_some_iff.mp h
          cases h
          cases number
      next => exact h

/-- A document whose text of its own parses as a number is read as that number. -/
theorem readAs_of_parse {document read : Document}
    (h : parse (compact document) = some read) (number : IsNumber read) :
    ReadAs document read := by
  unfold parse at h
  obtain ⟨⟨value, left⟩, read, h⟩ := Option.bind_eq_some_iff.mp h
  dsimp only at h
  split at h
  · rename_i blank
    cases h
    exact readAs_of_readNumber (readNumber_of_readValue read number) (List.isEmpty_iff.mp blank)
  · cases h

/-! ## §4. Lists. -/

/-- The items of a list with commas between them. -/
def itemsText (items : List Document) : List Char :=
  (",".intercalate (compactItems items)).toList

theorem itemsText_singleton (item : Document) : itemsText [item] = (compact item).toList := by
  rw [itemsText, compactItems, compactItems, String.intercalate_singleton]

theorem itemsText_cons (item next : Document) (items : List Document) :
    itemsText (item :: next :: items)
      = (compact item).toList ++ ',' :: itemsText (next :: items) := by
  unfold itemsText
  rw [compactItems, compactItems, String.intercalate_cons_cons, String.toList_append,
    String.toList_append, List.append_assoc]
  rfl

section

variable {fuel : Nat} {text left rest : List Char} {item : Document}

/-- What the reader does behind an item. -/
def afterItem (fuel : Nat) (item : Document) : List Char → Option (List Document × List Char)
  | ',' :: rest => (readItems fuel rest).bind fun r => some (item :: r.1, r.2)
  | ']' :: rest => some ([item], rest)
  | _ => none

theorem readItems_eq (value : readValue fuel text = some (item, left)) :
    readItems (fuel + 1) text = afterItem fuel item (skip left) := by
  rw [readItems, value]
  rfl

theorem readItems_last (value : readValue fuel text = some (item, left))
    (closed : skip left = ']' :: rest) : readItems (fuel + 1) text = some ([item], rest) := by
  rw [readItems_eq value, closed]
  rfl

theorem readItems_more {items : List Document} {tail : List Char}
    (value : readValue fuel text = some (item, left)) (comma : skip left = ',' :: tail)
    (more : readItems fuel tail = some (items, rest)) :
    readItems (fuel + 1) text = some (item :: items, rest) := by
  rw [readItems_eq value, comma, afterItem, more]
  rfl

end

/-- Items read back one after another, up to the bracket behind them. -/
theorem readItems_itemsText {items reads : List Document} (h : List.Forall₂ ReadAs items reads)
    (some : items ≠ []) {fuel : Nat} (enough : (itemsText items).length + 1 < fuel)
    (rest : List Char) :
    readItems fuel (itemsText items ++ ']' :: rest) = .some (reads, rest) := by
  induction h generalizing fuel with
  | nil => exact absurd rfl some
  | @cons item read items reads first more ih =>
      obtain ⟨fuel, rfl⟩ : ∃ f, fuel = f + 1 := ⟨fuel - 1, by omega⟩
      -- the step of fuel that an item takes is paid for by the comma or bracket behind it
      cases more with
      | nil =>
          rw [itemsText_singleton] at enough ⊢
          obtain ⟨left, value, skipped⟩ := first fuel _ (by omega) (.bracket rest)
          exact readItems_last value skipped
      | @cons next read' items' reads' second more' =>
          rw [itemsText_cons, List.length_append, List.length_cons] at enough
          rw [itemsText_cons, List.append_assoc]
          obtain ⟨left, value, skipped⟩ :=
            first fuel _ (by omega) (.comma (itemsText (next :: items') ++ ']' :: rest))
          have tail := @ih (List.cons_ne_nil _ _) fuel (by omega)
          exact readItems_more value skipped tail

/-- What the reader does behind the bracket that opens a list. -/
def insideList (fuel : Nat) : List Char → Option (Document × List Char)
  | ']' :: rest => some (.list [], rest)
  | rest => (readItems fuel rest).bind fun r => some (.list r.1, r.2)

theorem readValue_bracket (fuel : Nat) (text : List Char) :
    readValue (fuel + 1) ('[' :: text) = insideList fuel (skip text) := rfl

/-- A list whose items are read is not closed right away. -/
theorem insideList_items {fuel : Nat} {text left : List Char} {items : List Document}
    (read : readItems fuel text = some (items, left)) :
    insideList fuel (skip text) = some (.list items, left) := by
  unfold insideList
  split
  next tail bracket =>
      rw [readItems_bracket bracket] at read
      cases read
  next =>
      rw [readItems_skip, read]
      rfl

/-- **A list is read as the list of what its items are read as.** -/
theorem readAs_list {items reads : List Document} (h : List.Forall₂ ReadAs items reads) :
    ReadAs (.list items) (.list reads) := by
  intro fuel rest enough _
  obtain ⟨fuel, rfl⟩ : ∃ f, fuel = f + 1 := ⟨fuel - 1, by omega⟩
  have text : (compact (.list items)).toList = '[' :: (itemsText items ++ [']']) := by
    rw [compact, String.toList_append, String.toList_append]
    rfl
  rw [text] at enough ⊢
  refine ⟨rest, ?_, rfl⟩
  cases h with
  | nil => rfl
  | @cons item read items reads first more =>
      have shape : '[' :: (itemsText (item :: items) ++ [']']) ++ rest
          = '[' :: (itemsText (item :: items) ++ ']' :: rest) := by simp
      have inner : (itemsText (item :: items)).length + 1 < fuel := by
        simp only [List.length_cons, List.length_append, List.length_nil] at enough
        omega
      have body := readItems_itemsText (.cons first more) (List.cons_ne_nil _ _) inner rest
      rw [shape, readValue_bracket, insideList_items body]

/-! ## §5. Tables. -/

/-- The entries of a table with commas between them. -/
def entriesText (entries : List (String × Document)) : List Char :=
  (",".intercalate (compactEntries entries)).toList

theorem entriesText_singleton (name : String) (value : Document) :
    entriesText [(name, value)] = (quoted name).toList ++ ':' :: (compact value).toList := by
  rw [entriesText, compactEntries, compactEntries, String.intercalate_singleton,
    String.toList_append, String.toList_append, List.append_assoc]
  rfl

theorem entriesText_cons (name : String) (value : Document) (next : String × Document)
    (entries : List (String × Document)) :
    entriesText ((name, value) :: next :: entries)
      = (quoted name).toList ++ ':' :: ((compact value).toList
          ++ ',' :: entriesText (next :: entries)) := by
  obtain ⟨other, second⟩ := next
  unfold entriesText
  rw [compactEntries, compactEntries, String.intercalate_cons_cons]
  simp only [String.toList_append, List.append_assoc]
  rfl

/-- The entry keeps its name and its value is read as the other one. -/
structure EntryReadAs (entry read : String × Document) : Prop where
  name : read.1 = entry.1
  value : ReadAs entry.2 read.2

section

variable {fuel : Nat} {name : String} {text left rest : List Char} {value : Document}

/-- What the reader does behind the value of an entry. -/
def afterEntry (fuel : Nat) (entry : String × Document) :
    List Char → Option (List (String × Document) × List Char)
  | ',' :: rest => (readEntries fuel rest).bind fun r => some (entry :: r.1, r.2)
  | '\x7d' :: rest => some ([entry], rest)
  | _ => none

/-- What the reader does behind the name of an entry. -/
def afterName (fuel : Nat) (name : String) :
    List Char → Option (List (String × Document) × List Char)
  | ':' :: rest => (readValue fuel rest).bind fun v => afterEntry fuel (name, v.1) (skip v.2)
  | _ => none

theorem readEntries_eq (read : readValue fuel text = some (value, left)) :
    readEntries (fuel + 1) ((quoted name).toList ++ ':' :: text)
      = afterEntry fuel (name, value) (skip left) := by
  obtain ⟨body, written, named⟩ := readText_quoted name (':' :: text)
  rw [written, readEntries]
  show ((readText (body.length + 1) body).bind fun r =>
    afterName fuel (String.ofList r.1) (skip r.2)) = _
  rw [named, Option.bind_some, String.ofList_toList]
  show ((readValue fuel text).bind fun v => afterEntry fuel (name, v.1) (skip v.2)) = _
  rw [read, Option.bind_some]

theorem readEntries_last (read : readValue fuel text = some (value, left))
    (closed : skip left = '\x7d' :: rest) :
    readEntries (fuel + 1) ((quoted name).toList ++ ':' :: text)
      = some ([(name, value)], rest) := by
  rw [readEntries_eq read, closed]
  rfl

theorem readEntries_more {entries : List (String × Document)} {tail : List Char}
    (read : readValue fuel text = some (value, left)) (comma : skip left = ',' :: tail)
    (more : readEntries fuel tail = some (entries, rest)) :
    readEntries (fuel + 1) ((quoted name).toList ++ ':' :: text)
      = some ((name, value) :: entries, rest) := by
  rw [readEntries_eq read, comma, afterEntry, more]
  rfl

end

/-- Entries read back one after another, up to the brace behind them. -/
theorem readEntries_entriesText {entries reads : List (String × Document)}
    (h : List.Forall₂ EntryReadAs entries reads) (some : entries ≠ []) {fuel : Nat}
    (enough : (entriesText entries).length + 1 < fuel) (rest : List Char) :
    readEntries fuel (entriesText entries ++ '\x7d' :: rest) = .some (reads, rest) := by
  induction h generalizing fuel with
  | nil => exact absurd rfl some
  | @cons entry read entries reads first more ih =>
      obtain ⟨fuel, rfl⟩ : ∃ f, fuel = f + 1 := ⟨fuel - 1, by omega⟩
      obtain ⟨name, value⟩ := entry
      obtain ⟨_, reread⟩ := read
      obtain ⟨same, first⟩ := first
      subst same
      -- an entry pays for its step of fuel with its name alone
      cases more with
      | nil =>
          rw [entriesText_singleton, List.length_append, List.length_cons] at enough
          rw [entriesText_singleton, List.append_assoc]
          obtain ⟨left, value, skipped⟩ := first fuel _ (by dsimp only; omega) (.brace rest)
          exact readEntries_last value skipped
      | @cons next read' entries' reads' second more' =>
          rw [entriesText_cons] at enough ⊢
          simp only [List.length_append, List.length_cons] at enough
          obtain ⟨left, value, skipped⟩ := first fuel _ (by dsimp only; omega)
            (.comma (entriesText (next :: entries') ++ '\x7d' :: rest))
          have tail := @ih (List.cons_ne_nil _ _) fuel (by omega)
          rw [List.append_assoc, List.cons_append, List.append_assoc]
          exact readEntries_more value skipped tail

theorem head_entriesText (entry : String × Document) (entries : List (String × Document)) :
    ∃ tail, entriesText (entry :: entries) = '"' :: tail := by
  cases entries with
  | nil =>
      rw [entriesText_singleton, toList_quoted]
      exact ⟨_, rfl⟩
  | cons next entries =>
      rw [entriesText_cons, toList_quoted]
      exact ⟨_, rfl⟩

/-- Entries in the order of their names. -/
def ordered (entries : List (String × Document)) : List (String × Document) :=
  entries.foldl (fun sorted e => insertEntry e.1 e.2 sorted) []

/-- **A table is read as the table of what its entries are read as**, in the order of the
names. -/
theorem readAs_table {entries reads : List (String × Document)}
    (h : List.Forall₂ EntryReadAs entries reads) :
    ReadAs (.table entries) (.table (ordered reads)) := by
  intro fuel rest enough _
  obtain ⟨fuel, rfl⟩ : ∃ f, fuel = f + 1 := ⟨fuel - 1, by omega⟩
  have text : (compact (.table entries)).toList
      = '\x7b' :: (entriesText entries ++ ['\x7d']) := by
    rw [compact, String.toList_append, String.toList_append]
    rfl
  rw [text] at enough ⊢
  refine ⟨rest, ?_, rfl⟩
  cases h with
  | nil => rfl
  | @cons entry read entries reads first more =>
      have shape : '\x7b' :: (entriesText (entry :: entries) ++ ['\x7d']) ++ rest
          = '\x7b' :: (entriesText (entry :: entries) ++ '\x7d' :: rest) := by simp
      have inner : (entriesText (entry :: entries)).length + 1 < fuel := by
        simp only [List.length_cons, List.length_append, List.length_nil] at enough
        omega
      have body := readEntries_entriesText (.cons first more) (List.cons_ne_nil _ _) inner rest
      obtain ⟨tail, quote⟩ := head_entriesText entry entries
      rw [quote] at body
      rw [shape, quote, readValue]
      show (readEntries fuel ('"' :: tail ++ '\x7d' :: rest)).bind (fun r =>
        some (Document.table (ordered r.1), r.2)) = _
      rw [body]
      rfl

/-- A table is read as it is if it is in order and its values are read as they are. -/
theorem readAs_table_self {entries : List (String × Document)}
    (selves : ∀ entry ∈ entries, ReadAs entry.2 entry.2) (sorted : ordered entries = entries) :
    ReadAs (.table entries) (.table entries) := by
  have reads : List.Forall₂ EntryReadAs entries entries :=
    List.forall₂_same.mpr fun entry member => ⟨rfl, selves entry member⟩
  have whole := readAs_table reads
  rwa [sorted] at whole

theorem insertEntry_perm {name : String} (value : Document)
    {sorted : List (String × Document)} (fresh : name ∉ sorted.map (·.1)) :
    (insertEntry name value sorted).Perm ((name, value) :: sorted) := by
  induction sorted with
  | nil => exact .refl _
  | cons entry sorted ih =>
      obtain ⟨other, old⟩ := entry
      rw [List.map_cons, List.mem_cons, not_or] at fresh
      unfold insertEntry
      rw [if_neg fresh.1]
      by_cases before : name < other
      · rw [if_pos before]
      · rw [if_neg before]
        exact ((ih fresh.2).cons _).trans (.swap _ _ _)

/-- **Nothing is lost in putting entries in order**, as long as no name occurs twice. -/
theorem ordered_perm {entries : List (String × Document)}
    (distinct : (entries.map (·.1)).Nodup) : (ordered entries).Perm entries := by
  -- the same for entries that are added to some that are in place already
  have added (sorted entries : List (String × Document))
      (distinct : ((sorted ++ entries).map (·.1)).Nodup) :
      (entries.foldl (fun sorted e => insertEntry e.1 e.2 sorted) sorted).Perm
        (sorted ++ entries) := by
    induction entries generalizing sorted with
    | nil =>
        rw [List.append_nil]
        exact .refl _
    | cons entry entries ih =>
        have fresh : entry.1 ∉ sorted.map (·.1) := by
          rw [List.map_append, List.map_cons, List.nodup_append] at distinct
          intro member
          exact distinct.2.2 _ member _ List.mem_cons_self rfl
        have first : (insertEntry entry.1 entry.2 sorted ++ entries).Perm
            (sorted ++ entry :: entries) :=
          ((insertEntry_perm entry.2 fresh).append_right entries).trans
            List.perm_middle.symm
        rw [List.foldl_cons]
        exact (ih _ ((first.map _).nodup_iff.mpr distinct)).trans first
  exact added [] entries distinct

end Horizon.Json
