/-
  Horizon.Proofs.Toml.Integers
  ────────────────────────────
  **WHOLE NUMBERS OF A TOML TEXT FIT 64 BITS.**

  Whatever text is read, every whole number anywhere in its document has 64 bits with a
  sign.  The reader checks this where it reads the digits, and building the document only
  moves values around: each step below says so of one function.
-/
import Mathlib.Algebra.Group.Int.Defs
import Mathlib.Algebra.Group.Nat.Defs
import Horizon.Document.Toml.Reader

namespace Horizon

/-! ## §1. Documents and items. -/

/-- Every whole number in the document has 64 bits with a sign. -/
inductive Document.Within : Document → Prop where
  | null : Within .null
  | boolean {value} : Within (.boolean value)
  | integer {value} (h : -2 ^ 63 ≤ value ∧ value < 2 ^ 63) : Within (.integer value)
  | double {value} : Within (.double value)
  | single {value} : Within (.single value)
  | text {value} : Within (.text value)
  | timestamp {value} : Within (.timestamp value)
  | list {items : List Document} (h : ∀ item ∈ items, item.Within) : Within (.list items)
  | rows {tables : List Document} (h : ∀ table ∈ tables, table.Within) : Within (.rows tables)
  | table {entries : List (String × Document)} (h : ∀ entry ∈ entries, entry.2.Within) :
      Within (.table entries)

namespace Toml

/-- Every whole number in the item has 64 bits with a sign. -/
inductive Item.Within : Item → Prop where
  | leaf {value : Document} (h : value.Within) : Within (.leaf value)
  | table {origin : Origin} {entries : List (String × Item)}
      (h : ∀ entry ∈ entries, entry.2.Within) : Within (.table origin entries)
  | tables {rows : List (List (String × Item))}
      (h : ∀ row ∈ rows, ∀ entry ∈ row, entry.2.Within) : Within (.tables rows)

/-- The same of every entry. -/
def Within (entries : Entries) : Prop := ∀ entry ∈ entries, entry.2.Within

theorem within_nil : Within [] := fun _ h => absurd h (by simp)

theorem Within.append {first second : Entries} (h : Within first) (h' : Within second) :
    Within (first ++ second) := by
  intro entry hentry
  rcases List.mem_append.mp hentry with he | he
  · exact h entry he
  · exact h' entry he

theorem within_singleton {name : String} {item : Item} (h : item.Within) :
    Within [(name, item)] := by
  intro entry hentry
  rw [List.mem_singleton.mp hentry]
  exact h

theorem Within.lookup {entries : Entries} (h : Within entries) {name : String} {item : Item}
    (hl : lookup name entries = some item) : item.Within := by
  simp only [Toml.lookup, Option.map_eq_some_iff] at hl
  obtain ⟨entry, hfind, rfl⟩ := hl
  exact h entry (List.mem_of_find?_eq_some hfind)

theorem Within.replace {entries : Entries} (h : Within entries) {name : String} {item : Item}
    (hi : item.Within) : Within (replace name item entries) := by
  intro entry hentry
  obtain ⟨old, hold, rfl⟩ := List.mem_map.mp hentry
  by_cases hname : old.1 = name
  · simpa [hname] using hi
  · simpa [hname] using h old hold

theorem entryDocuments_eq (entries : Entries) :
    entryDocuments entries = entries.map fun entry => (entry.1, entry.2.document) := by
  induction entries with
  | nil => rfl
  | cons entry entries ih => rw [entryDocuments, ih, List.map_cons]

theorem rowDocuments_eq (rows : List Entries) :
    rowDocuments rows = rows.map fun row => .table (entryDocuments row) := by
  induction rows with
  | nil => rfl
  | cons row rows ih => rw [rowDocuments, ih, List.map_cons]

/-- Finishing an item keeps its numbers. -/
theorem Item.Within.document {item : Item} (h : item.Within) : item.document.Within := by
  induction h with
  | leaf h => exact h
  | table _ ih =>
      rw [Item.document, entryDocuments_eq]
      refine .table fun entry hentry => ?_
      obtain ⟨old, hold, rfl⟩ := List.mem_map.mp hentry
      exact ih old hold
  | tables _ ih =>
      rw [Item.document, rowDocuments_eq]
      refine .rows fun table htable => ?_
      obtain ⟨row, hrow, rfl⟩ := List.mem_map.mp htable
      rw [entryDocuments_eq]
      refine .table fun entry hentry => ?_
      obtain ⟨old, hold, rfl⟩ := List.mem_map.mp hentry
      exact ih row hrow old hold

theorem Within.entryDocuments {entries : Entries} (h : Within entries) :
    (Document.table (entryDocuments entries)).Within := by
  rw [entryDocuments_eq]
  refine .table fun entry hentry => ?_
  obtain ⟨old, hold, rfl⟩ := List.mem_map.mp hentry
  exact (h old hold).document

/-! ## §2. Building a document. -/

/-- A change of entries that keeps their numbers. -/
def Keeps (change : Origin → Entries → Option Entries) : Prop :=
  ∀ origin old new, Within old → change origin old = some new → Within new

theorem changeLast_within {rows new : List Entries} {change : Entries → Option Entries}
    (h : ∀ row ∈ rows, Within row)
    (hc : ∀ old new, Within old → change old = some new → Within new)
    (heq : changeLast rows change = some new) : ∀ row ∈ new, Within row := by
  unfold changeLast at heq
  simp only [Option.bind_eq_bind, Option.bind_eq_some_iff, Option.some.injEq] at heq
  obtain ⟨last, hlast, changed, hchanged, rfl⟩ := heq
  intro row hrow
  rcases List.mem_append.mp hrow with hrow | hrow
  · exact h row ((List.dropLast_sublist rows).subset hrow)
  · rw [List.mem_singleton.mp hrow]
    exact hc last changed (h last (List.mem_of_getLast? hlast)) hchanged

/-- A change at a path keeps the numbers if it does so of the entries there. -/
theorem alter_within {dottedPath : Bool} {change : Origin → Entries → Option Entries}
    (hc : Keeps change) (path : List String) : Keeps (alter dottedPath change path) := by
  induction path with
  | nil => exact fun origin old new h heq => hc origin old new h heq
  | cons name path ih =>
      intro origin old new h heq
      unfold alter at heq
      split at heq
      · -- a new table
        simp only [Option.bind_eq_bind, Option.bind_eq_some_iff, Option.some.injEq] at heq
        obtain ⟨made, hmade, rfl⟩ := heq
        exact h.append (within_singleton (.table (ih _ _ _ within_nil hmade)))
      · cases heq
      · -- a table that is there
        rename_i inner hlookup
        split at heq
        · cases heq
        · simp only [Option.bind_eq_bind, Option.bind_eq_some_iff, Option.some.injEq] at heq
          obtain ⟨made, hmade, rfl⟩ := heq
          cases h.lookup hlookup with
          | table hinner => exact h.replace (.table (ih _ _ _ hinner hmade))
      · -- rows of tables
        rename_i rows hlookup
        simp only [Option.bind_eq_bind, Option.bind_eq_some_iff, Option.some.injEq] at heq
        obtain ⟨made, hmade, rfl⟩ := heq
        cases h.lookup hlookup with
        | tables hrows =>
            exact h.replace (.tables (changeLast_within hrows (fun old new => ih _ old new) hmade))

theorem addNew_within {name : String} {item : Item} (hi : item.Within) {old new : Entries}
    (h : Within old) (heq : addNew name item old = some new) : Within new := by
  unfold addNew at heq
  split at heq
  · cases heq
  · cases heq
    exact h.append (within_singleton hi)

theorem addValue_within {path : List String} {name : String} {value : Document}
    (hv : value.Within) {old new : Entries} (h : Within old)
    (heq : addValue path name value old = some new) : Within new := by
  refine alter_within ?_ path _ old new h heq
  intro origin old new h heq
  dsimp only at heq
  split at heq
  · cases heq
  · exact addNew_within (.leaf hv) h heq

/-- Every whole number in the draft has 64 bits with a sign. -/
structure Draft.Within (draft : Draft) : Prop where
  finished : Toml.Within draft.finished
  opened : Toml.Within draft.opened

theorem Draft.Within.close {draft : Draft} (h : draft.Within) {entries : Entries}
    (heq : draft.close = some entries) : Toml.Within entries := by
  unfold Draft.close at heq
  split at heq
  · -- the outermost table
    cases heq
    exact h.opened
  · refine alter_within ?_ _ _ _ _ h.finished heq
    intro origin old new hold hnew
    dsimp only at hnew
    split at hnew
    · -- a row: the first one, or one after others
      split at hnew
      · cases hnew
        refine hold.append (within_singleton (.tables fun row hrow => ?_))
        rw [List.mem_singleton.mp hrow]
        exact h.opened
      · rename_i rows hlookup
        cases hnew
        cases hold.lookup hlookup with
        | tables hrows =>
            refine hold.replace (.tables fun row hrow => ?_)
            rcases List.mem_append.mp hrow with hrow | hrow
            · exact hrows row hrow
            · rw [List.mem_singleton.mp hrow]
              exact h.opened
      · cases hnew
    · exact addNew_within (.table h.opened) hold hnew

theorem reopen_within {name : String} {old parent opened : Entries} (h : Within old)
    (heq : Draft.reopen name old = some (parent, opened)) : Within parent ∧ Within opened := by
  unfold Draft.reopen at heq
  split at heq
  · cases heq
    exact ⟨h, within_nil⟩
  · rename_i inner hlookup
    cases heq
    cases h.lookup hlookup with
    | table hinner => exact ⟨fun entry hentry => h entry (List.mem_filter.mp hentry).1, hinner⟩
  · cases heq

theorem carried_within {name : String} {path : List String} {tree opened : Entries}
    (h : Within tree) (heq : Draft.openTable.carried path name tree = some opened) :
    Within opened := by
  -- the path leads through tables and through the last rows of lists
  induction path generalizing tree with
  | nil =>
      simp only [Draft.openTable.carried, Option.map_eq_some_iff] at heq
      obtain ⟨pair, hpair, rfl⟩ := heq
      exact (reopen_within h hpair).2
  | cons first path ih =>
      unfold Draft.openTable.carried at heq
      split at heq
      · cases heq
        exact within_nil
      · cases heq
      · rename_i origin inner hlookup
        cases h.lookup hlookup with
        | table hinner => exact ih hinner heq
      · rename_i rows hlookup
        simp only [Option.bind_eq_some_iff] at heq
        obtain ⟨last, hlast, heq⟩ := heq
        cases h.lookup hlookup with
        | tables hrows => exact ih (hrows last (List.mem_of_getLast? hlast)) heq

/-- The value of a statement. -/
def Statement.Within : Statement → Prop
  | .entry _ _ value => value.Within
  | _ => True

/-- **Each statement keeps the numbers of the draft.** -/
theorem apply_within {statement : Statement} (hs : statement.Within) {draft draft' : Draft}
    (h : draft.Within) (heq : statement.apply draft = some draft') : draft'.Within := by
  -- opening a table or row first closes the one that is open
  cases statement with
  | table path =>
      simp only [Statement.apply, Draft.openTable, Option.bind_eq_bind, Option.bind_eq_some_iff,
        Option.some.injEq] at heq
      obtain ⟨tree, htree, name, -, parent, hparent, opened, hopened, rfl⟩ := heq
      have htree := h.close htree
      refine ⟨alter_within ?_ _ _ _ _ htree hparent, carried_within htree hopened⟩
      intro origin old new hold hnew
      simp only [Option.map_eq_some_iff] at hnew
      obtain ⟨pair, hpair, rfl⟩ := hnew
      exact (reopen_within hold hpair).1
  | row path =>
      simp only [Statement.apply, Draft.openRow, Option.bind_eq_bind, Option.bind_eq_some_iff,
        Option.some.injEq] at heq
      obtain ⟨tree, htree, name, -, finished, hfinished, rfl⟩ := heq
      refine ⟨alter_within ?_ _ _ _ _ (h.close htree) hfinished, within_nil⟩
      intro origin old new hold hnew
      dsimp only at hnew
      split at hnew
      · cases hnew
        exact hold.append (within_singleton (.tables fun row hrow => absurd hrow (by simp)))
      · cases hnew
        exact hold
      · cases hnew
  | entry path name value =>
      simp only [Statement.apply, Draft.add, Option.bind_eq_bind, Option.bind_eq_some_iff,
        Option.some.injEq] at heq
      obtain ⟨opened, hopened, rfl⟩ := heq
      exact ⟨h.finished, addValue_within hs h.opened hopened⟩

theorem foldlM_within {statements : List Statement} (hs : ∀ s ∈ statements, s.Within)
    {draft draft' : Draft} (h : draft.Within)
    (heq : statements.foldlM Statement.apply draft = some draft') : draft'.Within := by
  induction statements generalizing draft with
  | nil =>
      cases heq
      exact h
  | cons statement statements ih =>
      simp only [List.foldlM_cons, Option.bind_eq_bind, Option.bind_eq_some_iff] at heq
      obtain ⟨between, hbetween, heq⟩ := heq
      exact ih (fun s hm => hs s (by simp [hm])) (apply_within (hs statement (by simp)) h hbetween)
        heq

/-- **The document that statements describe has no other numbers than they have.** -/
theorem documentOf_within {statements : List Statement} (hs : ∀ s ∈ statements, s.Within)
    {document : Document} (heq : documentOf statements = some document) : document.Within := by
  simp only [documentOf, Option.bind_eq_bind, Option.bind_eq_some_iff, Option.some.injEq] at heq
  obtain ⟨draft, hdraft, entries, hentries, rfl⟩ := heq
  exact ((foldlM_within hs ⟨within_nil, within_nil⟩ hdraft).close hentries).entryDocuments

/-! ## §3. Reading values. -/

/-- The reader takes no whole number beyond 64 bits. -/
theorem integer?_within {word : List Char} {value : Int} (h : integer? word = some value) :
    -2 ^ 63 ≤ value ∧ value < 2 ^ 63 := by
  have hradix : ∀ radix rest, integer?.inRadix radix rest = some value →
      -2 ^ 63 ≤ value ∧ value < 2 ^ 63 := by
    intro radix rest h
    simp only [integer?.inRadix, Option.bind_eq_bind, Option.bind_eq_some_iff,
      Option.ite_none_right_eq_some, Option.some.injEq] at h
    obtain ⟨digits, -, hlt, rfl⟩ := h
    omega
  unfold integer? at h
  -- digits to another base have no sign, so they are checked on one side only
  split at h
  · exact hradix 16 _ h
  · exact hradix 8 _ h
  · exact hradix 2 _ h
  · simp only [Option.bind_eq_bind, Option.bind_eq_some_iff] at h
    obtain ⟨digits, -, h⟩ := h
    split at h
    · simp only [Option.ite_none_right_eq_some, Option.some.injEq] at h
      omega
    · simp only [Option.ite_none_right_eq_some, Option.some.injEq] at h
      omega

theorem scalar?_within {word : List Char} {value : Document} (h : scalar? word = some value) :
    value.Within := by
  unfold scalar? at h
  split at h
  · cases h
    exact .boolean
  split at h
  · cases h
    exact .boolean
  split at h
  · cases h
    exact .timestamp
  split at h
  · rename_i i hi
    cases h
    exact .integer (integer?_within hi)
  · simp only [Option.map_eq_some_iff] at h
    obtain ⟨x, -, rfl⟩ := h
    exact .double

theorem readScalar_within {text rest : List Char} {value : Document}
    (h : readScalar text = some (value, rest)) : value.Within := by
  unfold readScalar at h
  dsimp only at h
  split at h
  · cases h
    exact .timestamp
  · simp only [Option.map_eq_some_iff, Prod.mk.injEq] at h
    obtain ⟨v, hv, rfl, -⟩ := h
    exact scalar?_within hv

theorem addValues_within {pairs : List (List String × String × Document)}
    (h : ∀ pair ∈ pairs, pair.2.2.Within) {old new : Entries} (hold : Within old)
    (heq : pairs.foldlM (fun entries pair => addValue pair.1 pair.2.1 pair.2.2 entries) old
      = some new) : Within new := by
  induction pairs generalizing old with
  | nil =>
      cases heq
      exact hold
  | cons pair pairs ih =>
      simp only [List.foldlM_cons, Option.bind_eq_bind, Option.bind_eq_some_iff] at heq
      obtain ⟨between, hbetween, heq⟩ := heq
      exact ih (fun p hp => h p (by simp [hp]))
        (addValue_within (h pair (by simp)) hold hbetween) heq

theorem inlineTable_within {pairs : List (List String × String × Document)}
    (h : ∀ pair ∈ pairs, pair.2.2.Within) {value : Document}
    (heq : inlineTable pairs = some value) : value.Within := by
  simp only [inlineTable, Option.bind_eq_bind, Option.bind_eq_some_iff, Option.some.injEq] at heq
  obtain ⟨entries, hentries, rfl⟩ := heq
  exact (addValues_within h within_nil hentries).entryDocuments

/-- The three readers of values with so much fuel keep to 64 bits. -/
structure ReadersWithin (fuel : Nat) : Prop where
  value : ∀ {depth text value rest}, readValue fuel depth text = some (value, rest) →
    value.Within
  items : ∀ {depth text items rest}, readItems fuel depth text = some (items, rest) →
    ∀ item ∈ items, item.Within
  pairs : ∀ {depth text pairs rest}, readPairs fuel depth text = some (pairs, rest) →
    ∀ pair ∈ pairs, pair.2.2.Within

/-- A value keeps to 64 bits if what nests in it does. -/
theorem readValue_within {fuel : Nat} (ih : ReadersWithin fuel) {depth : Nat}
    {text rest : List Char} {value : Document}
    (h : readValue (fuel + 1) depth text = some (value, rest)) : value.Within := by
  unfold readValue at h
  -- by the first character: two kinds of quotes, a list, a table, or none of these
  split at h
  · simp only [Option.map_eq_some_iff, Prod.mk.injEq] at h
    obtain ⟨r, -, rfl, -⟩ := h
    exact .text
  · simp only [Option.map_eq_some_iff, Prod.mk.injEq] at h
    obtain ⟨r, -, rfl, -⟩ := h
    exact .text
  · split at h
    · cases h
    · simp only [Option.bind_eq_bind, Option.bind_eq_some_iff, Option.some.injEq,
        Prod.mk.injEq] at h
      obtain ⟨⟨items, more⟩, hitems, rfl, -⟩ := h
      exact .list (ih.items hitems)
  · split at h
    · cases h
    · split at h
      · cases h
        exact .table fun entry hentry => absurd hentry (by simp)
      · simp only [Option.bind_eq_bind, Option.bind_eq_some_iff, Option.some.injEq,
          Prod.mk.injEq] at h
        obtain ⟨⟨pairs, more⟩, hpairs, table, htable, rfl, -⟩ := h
        exact inlineTable_within (ih.pairs hpairs) htable
  · exact readScalar_within h

theorem readItems_within {fuel : Nat} (ih : ReadersWithin fuel) {depth : Nat}
    {text rest : List Char} {items : List Document}
    (h : readItems (fuel + 1) depth text = some (items, rest)) :
    ∀ item ∈ items, item.Within := by
  unfold readItems at h
  simp only [Option.bind_eq_bind, Option.bind_eq_some_iff] at h
  obtain ⟨start, -, h⟩ := h
  -- a closed list, or an item with a comma, the end or something else behind it
  split at h
  · cases h
    simp
  · simp only [Option.bind_eq_some_iff] at h
    obtain ⟨⟨item, behind⟩, hitem, next, -, h⟩ := h
    split at h
    · simp only [Option.bind_eq_some_iff, Option.some.injEq, Prod.mk.injEq] at h
      obtain ⟨⟨items, more⟩, hitems, rfl, -⟩ := h
      exact List.forall_mem_cons.mpr ⟨ih.value hitem, ih.items hitems⟩
    · cases h
      exact List.forall_mem_singleton.mpr (ih.value hitem)
    · cases h

theorem readPairs_within {fuel : Nat} (ih : ReadersWithin fuel) {depth : Nat}
    {text rest : List Char} {pairs : List (List String × String × Document)}
    (h : readPairs (fuel + 1) depth text = some (pairs, rest)) :
    ∀ pair ∈ pairs, pair.2.2.Within := by
  unfold readPairs at h
  simp only [Option.bind_eq_bind, Option.bind_eq_some_iff] at h
  obtain ⟨⟨path, name, behind⟩, -, h⟩ := h
  dsimp only at h
  split at h
  · simp only [Option.bind_eq_some_iff] at h
    obtain ⟨⟨value, next⟩, hvalue, h⟩ := h
    split at h
    · simp only [Option.bind_eq_some_iff, Option.some.injEq, Prod.mk.injEq] at h
      obtain ⟨⟨pairs, more⟩, hpairs, rfl, -⟩ := h
      exact List.forall_mem_cons.mpr ⟨ih.value hvalue, ih.pairs hpairs⟩
    · cases h
      exact List.forall_mem_singleton.mpr (ih.value hvalue)
    · cases h
  · cases h

theorem readersWithin (fuel : Nat) : ReadersWithin fuel := by
  -- the three call each other with less fuel, so they are proved together
  induction fuel with
  | zero =>
      refine ⟨?_, ?_, ?_⟩
      · intro _ _ _ _ h
        simp [readValue] at h
      · intro _ _ _ _ h
        simp [readItems] at h
      · intro _ _ _ _ h
        simp [readPairs] at h
  | succ fuel ih => exact ⟨readValue_within ih, readItems_within ih, readPairs_within ih⟩

/-! ## §4. Reading statements. -/

theorem readHeader_within {text rest : List Char} {statement : Statement}
    (h : readHeader text = some (statement, rest)) : statement.Within := by
  unfold readHeader at h
  split at h
  all_goals
    simp only [Option.bind_eq_bind, Option.bind_eq_some_iff] at h
    obtain ⟨⟨path, name, behind⟩, -, h⟩ := h
    dsimp only at h
    split at h
    · simp only [Option.bind_eq_some_iff, Option.some.injEq, Prod.mk.injEq] at h
      obtain ⟨next, -, rfl, -⟩ := h
      trivial
    · cases h

theorem readEntry_within {text rest : List Char} {statement : Statement}
    (h : readEntry text = some (statement, rest)) : statement.Within := by
  unfold readEntry at h
  simp only [Option.bind_eq_bind, Option.bind_eq_some_iff] at h
  obtain ⟨⟨path, name, behind⟩, -, h⟩ := h
  dsimp only at h
  split at h
  · simp only [Option.bind_eq_some_iff, Option.some.injEq, Prod.mk.injEq] at h
    obtain ⟨⟨value, next⟩, hvalue, last, -, rfl, -⟩ := h
    exact (readersWithin _).value hvalue
  · cases h

theorem readStatements_within {fuel : Nat} {text : List Char} {statements : List Statement}
    (h : readStatements fuel text = some statements) : ∀ s ∈ statements, s.Within := by
  induction fuel generalizing text statements with
  | zero => simp [readStatements] at h
  | succ fuel ih =>
      unfold readStatements at h
      -- the end, a comment, two kinds of empty lines, a header, an entry
      split at h
      · cases h
        simp
      · simp only [Option.bind_eq_bind, Option.bind_eq_some_iff] at h
        obtain ⟨next, -, h⟩ := h
        exact ih h
      · exact ih h
      · simp only [Option.bind_eq_bind, Option.bind_eq_some_iff] at h
        obtain ⟨next, -, h⟩ := h
        exact ih h
      · simp only [Option.bind_eq_bind, Option.bind_eq_some_iff, Option.some.injEq] at h
        obtain ⟨⟨statement, next⟩, hstatement, more, hmore, rfl⟩ := h
        exact List.forall_mem_cons.mpr ⟨readHeader_within hstatement, ih hmore⟩
      · simp only [Option.bind_eq_bind, Option.bind_eq_some_iff, Option.some.injEq] at h
        obtain ⟨⟨statement, next⟩, hstatement, more, hmore, rfl⟩ := h
        exact List.forall_mem_cons.mpr ⟨readEntry_within hstatement, ih hmore⟩

/-- **Every whole number of a document that was read has 64 bits with a sign.** -/
theorem parse_within {text : String} {document : Document} (h : parse text = some document) :
    document.Within := by
  simp only [parse, Option.bind_eq_bind, Option.bind_eq_some_iff] at h
  obtain ⟨statements, hstatements, h⟩ := h
  unfold statements? at hstatements
  exact documentOf_within (readStatements_within hstatements) h

end Toml

end Horizon
