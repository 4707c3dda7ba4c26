/-
  Horizon.Proofs.Toml.RoundTrip
  ─────────────────────────────
  **TABLES READ BACK FROM TOML.**

  A plain table has bare keys, no key twice, and values that are legible or plain tables
  themselves.  Writing a plain table succeeds, and reading the text gives the table again
  with its scalars before its subtables,

      EntriesPlain depth entries →
        ∃ text, write entries = .ok text ∧
          parse text = some (.table (entryDocuments (tableItems entries)))

  by way of the statements: the lines that are written state them, and carrying them out
  builds the table.
-/
import Horizon.Proofs.Toml.Lines
import Horizon.Proofs.Toml.Tree

namespace Horizon

/-! ## §1. Plain tables. -/

mutual

/-- A legible value, or a table of such values nested at most `depth` deep. -/
def Document.Plain : (depth : Nat) → Document → Prop
  | 0, .table _ => False
  | depth + 1, .table entries => EntriesPlain depth entries
  | _, value => value.Legible

/-- The keys are bare and no two are the same, and the values are plain. -/
def EntriesPlain : (depth : Nat) → List (String × Document) → Prop
  | _, [] => True
  | depth, (name, value) :: entries =>
    Toml.BareKey name ∧ (∀ entry ∈ entries, entry.1 ≠ name) ∧ value.Plain depth ∧
      EntriesPlain depth entries

end

namespace Toml

mutual

/-- The statements that open a table and fill it. -/
def tableStatements (path : List String) : Document → List Statement
  | .table entries =>
    .table path :: (scalarStatements entries ++ subtableStatements path entries)
  | _ => []

/-- The statements for a table's scalars. -/
def scalarStatements : List (String × Document) → List Statement
  | [] => []
  | (_, .table _) :: entries => scalarStatements entries
  | (name, value) :: entries => .entry [] name value.asRead :: scalarStatements entries

/-- The statements for a table's subtables. -/
def subtableStatements (path : List String) : List (String × Document) → List Statement
  | [] => []
  | (name, value) :: entries =>
    tableStatements (path ++ [name]) value ++ subtableStatements path entries

end

/-- A table's scalars as the entries that they make. -/
def scalarItems : List (String × Document) → Entries
  | [] => []
  | (_, .table _) :: entries => scalarItems entries
  | (name, value) :: entries => (name, .leaf value.asRead) :: scalarItems entries

mutual

/-- The entry that a subtable makes; a scalar makes none. -/
def subtableItem (name : String) : Document → Entries
  | .table entries => [(name, .table .header (scalarItems entries ++ subtableItems entries))]
  | _ => []

/-- A table's subtables as the entries that they make. -/
def subtableItems : List (String × Document) → Entries
  | [] => []
  | (name, value) :: entries => subtableItem name value ++ subtableItems entries

end

/-- A table as it is read back: scalars come before subtables. -/
def tableItems (entries : List (String × Document)) : Entries :=
  scalarItems entries ++ subtableItems entries

/-! ## §2. What is written states the table. -/

/-- A value that is no table. -/
def IsScalar (value : Document) : Prop := ∀ entries, value ≠ .table entries

theorem scalarLines_cons {name : String} {value : Document} (h : IsScalar value)
    (entries : List (String × Document)) :
    scalarLines ((name, value) :: entries) = (do
      let line := s!"{name} = {← scalarText value}"
      let lines ← scalarLines entries
      .ok (line :: lines)) := by
  cases value with
  | table inner => exact absurd rfl (h inner)
  | _ => rfl

theorem scalarStatements_cons {name : String} {value : Document} (h : IsScalar value)
    (entries : List (String × Document)) :
    scalarStatements ((name, value) :: entries)
      = .entry [] name value.asRead :: scalarStatements entries := by
  cases value with
  | table inner => exact absurd rfl (h inner)
  | _ => rfl

theorem scalarItems_cons {name : String} {value : Document} (h : IsScalar value)
    (entries : List (String × Document)) :
    scalarItems ((name, value) :: entries)
      = (name, .leaf value.asRead) :: scalarItems entries := by
  cases value with
  | table inner => exact absurd rfl (h inner)
  | _ => rfl

theorem legible_of_plain {depth : Nat} {value : Document} (h : value.Plain depth)
    (hs : IsScalar value) : value.Legible := by
  cases value with
  | table inner => exact absurd rfl (hs inner)
  | _ => cases depth <;> exact h

/-- The scalars of a plain table can be written, and the lines state them. -/
theorem exists_scalarLines {depth : Nat} {entries : List (String × Document)}
    (h : EntriesPlain depth entries) :
    ∃ lines, scalarLines entries = .ok lines ∧ Reads lines (scalarStatements entries) := by
  induction entries with
  | nil => exact ⟨[], rfl, .nil⟩
  | cons entry entries ih =>
      obtain ⟨name, value⟩ := entry
      obtain ⟨key, -, hvalue, hmore⟩ := h
      obtain ⟨lines, hlines, hreads⟩ := ih hmore
      by_cases hs : IsScalar value
      · obtain ⟨text, htext, hread⟩ := exists_readsValue (legible_of_plain hvalue hs)
        rw [scalarLines_cons hs, scalarStatements_cons hs, htext, hlines]
        exact ⟨_, rfl, .entry key hread hreads⟩
      · obtain ⟨inner, rfl⟩ : ∃ inner, value = .table inner := by
          simpa [IsScalar] using hs
        exact ⟨lines, hlines, hreads⟩

mutual

/-- A plain table can be written, and the lines state it. -/
theorem exists_tableLines {depth : Nat} {path : List String} {name : String}
    (keys : ∀ key ∈ path, BareKey key) (key : BareKey name) (short : path.length + depth ≤ 79) :
    ∀ {value : Document}, value.Plain depth →
      ∃ lines, tableLines (path ++ [name]) value = .ok lines ∧
        Reads lines (tableStatements (path ++ [name]) value)
  | .table entries, h => by
      match depth, h with
      | depth + 1, h =>
        -- the header, the scalars, and then the subtables under the longer path
        obtain ⟨scalars, hscalars, hstate⟩ := exists_scalarLines h
        have hkeys : ∀ k ∈ path ++ [name], BareKey k := by
          intro k hk
          rcases List.mem_append.mp hk with hk | hk
          · exact keys k hk
          · rw [List.mem_singleton.mp hk]
            exact key
        obtain ⟨more, hmore, hstate'⟩ := @exists_subtableLines depth (path ++ [name]) hkeys
          (by simp; omega) entries h
        refine ⟨_, ?_, .header keys key (by omega) (hstate.append hstate')⟩
        rw [tableLines, hscalars, hmore]
        rfl
  | .null, _ | .boolean _, _ | .integer _, _ | .double _, _ | .single _, _ | .text _, _
  | .timestamp _, _ | .list _, _ | .rows _, _ => ⟨[], rfl, .nil⟩

/-- The subtables of a plain table can be written, and the lines state them. -/
theorem exists_subtableLines {depth : Nat} {path : List String}
    (keys : ∀ key ∈ path, BareKey key) (short : path.length + depth ≤ 79) :
    ∀ {entries : List (String × Document)}, EntriesPlain depth entries →
      ∃ lines, subtableLines path entries = .ok lines ∧
        Reads lines (subtableStatements path entries)
  | [], _ => ⟨[], rfl, .nil⟩
  | (name, value) :: entries, ⟨key, _, hvalue, hmore⟩ => by
      obtain ⟨lines, hlines, hstate⟩ := exists_tableLines keys key short hvalue
      obtain ⟨more, hmore, hstate'⟩ := exists_subtableLines keys short hmore
      refine ⟨(if lines.isEmpty then [] else "" :: lines) ++ more, ?_, ?_⟩
      · rw [subtableLines, hlines, hmore]
        rfl
      · rw [subtableStatements]
        refine Reads.append ?_ hstate'
        cases lines with
        | nil => exact hstate
        | cons line lines => exact .blank hstate

end

/-! ## §3. Carrying out the statements builds the table. -/

/-- Carry out statements one after another. -/
def run (draft : Draft) (statements : List Statement) : Option Draft :=
  statements.foldlM Statement.apply draft

theorem run_cons (draft : Draft) (statement : Statement) (statements : List Statement) :
    run draft (statement :: statements)
      = (statement.apply draft).bind fun draft => run draft statements :=
  rfl

theorem run_append (draft : Draft) (first second : List Statement) :
    run draft (first ++ second) = (run draft first).bind fun draft => run draft second :=
  List.foldlM_append

/-- No entry has the name of an item. -/
def Fresh (entries : List (String × Document)) (items : Entries) : Prop :=
  ∀ entry ∈ entries, lookup entry.1 items = none

theorem Fresh.tail {entry : String × Document} {entries : List (String × Document)}
    {items : Entries} (h : Fresh (entry :: entries) items) : Fresh entries items :=
  fun e he => h e (by simp [he])

/-- Another item whose name none of the entries has. -/
theorem Fresh.snoc {name : String} {entries : List (String × Document)} {items : Entries}
    (h : Fresh entries items) (hn : ∀ entry ∈ entries, entry.1 ≠ name) (item : Item) :
    Fresh entries (items ++ [(name, item)]) := by
  intro entry hentry
  have hold := lookup_eq_none.mp (h entry hentry)
  refine lookup_eq_none.mpr fun e he => ?_
  rcases List.mem_append.mp he with he | he
  · exact hold e he
  · rw [List.mem_singleton.mp he]
    exact (hn entry hentry).symm

/-- Adding scalars fills the open table. -/
theorem run_scalars {depth : Nat} {entries : List (String × Document)}
    (h : EntriesPlain depth entries) {draft : Draft} (hf : Fresh entries draft.opened) :
    run draft (scalarStatements entries)
      = some { draft with opened := draft.opened ++ scalarItems entries } := by
  induction entries generalizing draft with
  | nil => simp [run, scalarStatements, scalarItems]
  | cons entry entries ih =>
      obtain ⟨name, value⟩ := entry
      obtain ⟨-, hdistinct, -, hmore⟩ := h
      by_cases hs : IsScalar value
      · have hnew : lookup name draft.opened = none := hf (name, value) (by simp)
        have hadd : (Statement.entry [] name value.asRead).apply draft
            = some { draft with opened := draft.opened ++ [(name, .leaf value.asRead)] } := by
          simp [Statement.apply, Draft.add, addValue, alter, addNew, hnew]
        rw [scalarStatements_cons hs, scalarItems_cons hs, run_cons, hadd, Option.bind_some,
          ih hmore (hf.tail.snoc hdistinct _)]
        simp
      · obtain ⟨inner, rfl⟩ : ∃ inner, value = .table inner := by
          simpa [IsScalar] using hs
        exact ih hmore hf.tail

/-- A header closes the table before it and opens an empty one. -/
theorem openTable_eq {draft : Draft} {path : List String} {name : String}
    {tree base items : Entries} (hclose : draft.close = some (put items path tree))
    (hat : entriesAt path tree = some base) (hnew : lookup name items = none) :
    (Statement.table (path ++ [name])).apply draft
      = some ⟨put items path tree, path ++ [name], false, []⟩ := by
  have hput : entriesAt path (put items path tree) = some items := entriesAt_put hat
  -- no entry has the name yet, so there is nothing to open again
  have hreopen : Draft.reopen name items = some (items, []) := by
    rw [Draft.reopen, hnew]
  have hcarried : Draft.openTable.carried path name (put items path tree) = some [] := by
    rw [carried_eq hput, hreopen]
    rfl
  simp only [Statement.apply, Draft.openTable, hclose, List.getLast?_append_of_ne_nil,
    List.getLast?_singleton, List.dropLast_concat, alter_eq _ hput, hreopen, hcarried, bind,
    Option.bind, Option.map_some, put_put hat, ne_eq, List.cons_ne_self, not_false_eq_true]

/-- The open table goes to the end of the entries at its path. -/
theorem close_eq {path : List String} {name : String} {tree base items : Entries}
    (hat : entriesAt path tree = some base) (hnew : lookup name items = none)
    (opened : Entries) :
    Draft.close ⟨put items path tree, path ++ [name], false, opened⟩
      = some (put (items ++ [(name, .table .header opened)]) path tree) := by
  have hput : entriesAt path (put items path tree) = some items := entriesAt_put hat
  simp [Draft.close, alter_eq _ hput, addNew, hnew, put_put hat]

theorem mem_scalarItems {entries : List (String × Document)} {item : String × Item}
    (h : item ∈ scalarItems entries) : ∃ entry ∈ entries, entry.1 = item.1 := by
  induction entries with
  | nil => simp [scalarItems] at h
  | cons entry entries ih =>
      obtain ⟨name, value⟩ := entry
      have hmore : item ∈ scalarItems entries → ∃ entry ∈ (name, value) :: entries,
          entry.1 = item.1 := by
        intro h
        obtain ⟨e, he, heq⟩ := ih h
        exact ⟨e, by simp [he], heq⟩
      by_cases hs : IsScalar value
      · -- the first item has the name of the first entry
        rw [scalarItems_cons hs, List.mem_cons] at h
        rcases h with rfl | h
        · exact ⟨(name, value), by simp, rfl⟩
        · exact hmore h
      · obtain ⟨inner, rfl⟩ : ∃ inner, value = .table inner := by
          simpa [IsScalar] using hs
        exact hmore h

/-- No scalar of a plain table has the name of a subtable. -/
theorem lookup_scalarItems {depth : Nat} {entries : List (String × Document)}
    (h : EntriesPlain depth entries) {name : String} {inner : List (String × Document)}
    (hm : (name, .table inner) ∈ entries) : lookup name (scalarItems entries) = none := by
  induction entries with
  | nil => simp at hm
  | cons entry entries ih =>
      obtain ⟨first, value⟩ := entry
      obtain ⟨-, hdistinct, -, hmore⟩ := h
      rcases List.mem_cons.mp hm with heq | hm
      · cases heq
        refine lookup_eq_none.mpr fun item hitem => ?_
        have hitem : item ∈ scalarItems entries := hitem
        obtain ⟨e, he, heq⟩ := mem_scalarItems hitem
        rw [← heq]
        exact hdistinct e he
      · have ih := lookup_eq_none.mp (ih hmore hm)
        refine lookup_eq_none.mpr fun item hitem => ?_
        by_cases hs : IsScalar value
        · rw [scalarItems_cons hs, List.mem_cons] at hitem
          rcases hitem with rfl | hitem
          · exact (hdistinct _ hm).symm
          · exact ih item hitem
        · obtain ⟨inner, rfl⟩ : ∃ inner, value = .table inner := by
            simpa [IsScalar] using hs
          exact ih item hitem

theorem mem_subtableItem {name : String} {value : Document} {item : String × Item}
    (h : item ∈ subtableItem name value) : item.1 = name := by
  cases value with
  | table entries =>
      rw [subtableItem, List.mem_singleton] at h
      rw [h]
  | _ => simp [subtableItem] at h

mutual

/-- The statements of a table put it behind what is there. -/
theorem run_table {depth : Nat} {path : List String} {name : String} {tree base items : Entries}
    (hat : entriesAt path tree = some base) :
    ∀ {value : Document} {draft : Draft}, value.Plain depth →
      draft.close = some (put items path tree) →
      (∀ inner, value = .table inner → lookup name items = none) →
      ∃ draft', run draft (tableStatements (path ++ [name]) value) = some draft' ∧
        draft'.close = some (put (items ++ subtableItem name value) path tree)
  | .table entries, draft, h, hclose, hnew => by
      match depth, h with
      | depth + 1, h =>
        have hnew := hnew entries rfl
        have hclosed := close_eq hat hnew (scalarItems entries)
        -- the tree with the scalars in their place, seen from the new table's own path
        obtain ⟨tree', htree'⟩ : ∃ tree', tree'
            = put (items ++ [(name, .table .header (scalarItems entries))]) path tree := ⟨_, rfl⟩
        have hat' : entriesAt path tree' = some _ := htree' ▸ entriesAt_put hat
        have hself : ∀ opened : Entries, put opened (path ++ [name]) tree'
            = put (items ++ [(name, .table .header opened)]) path tree := by
          intro opened
          rw [put_append hat' (lookup_append_self hnew), replace_append hnew, htree',
            put_put hat]
        have hinner := entriesAt_append hat' (lookup_append_self hnew)
        rw [← hself] at hclosed
        obtain ⟨draft', hrun, hdone⟩ := run_subtables hinner h hclosed
          (fun n inner hm => lookup_scalarItems h hm)
        refine ⟨draft', ?_, ?_⟩
        · rw [tableStatements, run_cons, openTable_eq hclose hat hnew, Option.bind_some,
            run_append, run_scalars h (fun e _ => rfl), Option.bind_some]
          exact hrun
        · rw [hdone, hself]
          rfl
  | .null, draft, _, hclose, _ | .boolean _, draft, _, hclose, _
  | .integer _, draft, _, hclose, _ | .double _, draft, _, hclose, _
  | .single _, draft, _, hclose, _ | .text _, draft, _, hclose, _
  | .timestamp _, draft, _, hclose, _ | .list _, draft, _, hclose, _
  | .rows _, draft, _, hclose, _ => by
      refine ⟨draft, rfl, ?_⟩
      rw [subtableItem, List.append_nil, hclose]
      simp

/-- The statements of subtables put them behind what is there. -/
theorem run_subtables {depth : Nat} {path : List String} {tree base : Entries}
    (hat : entriesAt path tree = some base) :
    ∀ {entries : List (String × Document)} {draft : Draft} {items : Entries},
      EntriesPlain depth entries → draft.close = some (put items path tree) →
      (∀ name inner, (name, .table inner) ∈ entries → lookup name items = none) →
      ∃ draft', run draft (subtableStatements path entries) = some draft' ∧
        draft'.close = some (put (items ++ subtableItems entries) path tree)
  | [], draft, items, _, hclose, _ => by
      refine ⟨draft, rfl, ?_⟩
      rw [subtableItems, List.append_nil]
      exact hclose
  | (name, value) :: entries, draft, items, ⟨_, hdistinct, hvalue, hmore⟩, hclose, hf => by
      obtain ⟨between, hrun, hbetween⟩ := @run_table depth path name tree base items hat value
        draft hvalue hclose (fun inner heq => hf name inner (by simp [heq]))
      -- the next subtables have other names than this one
      have hfresh : ∀ n inner, (n, .table inner) ∈ entries →
          lookup n (items ++ subtableItem name value) = none := by
        intro n inner hm
        have hold := lookup_eq_none.mp (hf n inner (by simp [hm]))
        refine lookup_eq_none.mpr fun item hitem => ?_
        rcases List.mem_append.mp hitem with hitem | hitem
        · exact hold item hitem
        · rw [mem_subtableItem hitem]
          exact (hdistinct _ hm).symm
      obtain ⟨draft', hrun', hdone⟩ := run_subtables hat hmore hbetween hfresh
      refine ⟨draft', ?_, ?_⟩
      · rw [subtableStatements, run_append, hrun, Option.bind_some, hrun']
      · rw [hdone, subtableItems, List.append_assoc]

end

/-! ## §4. The round trip. -/

/-- The lines of statements start with no byte order mark. -/
theorem head_lineChars {lines : List String} {statements : List Statement}
    (h : Reads lines statements) : (lineChars lines).head? ≠ some (Char.ofNat 0xFEFF) := by
  cases h with
  | nil => simp [lineChars]
  | blank => simp [lineChars]
  | header => simp [lineChars]
  | @entry _ _ name text value key reads more =>
      obtain ⟨c, cs, hc, hkey⟩ := key.head
      have hname : toString name = name := rfl
      have hne : c ≠ Char.ofNat 0xFEFF := by
        rintro rfl
        exact absurd hkey (by decide)
      simpa [lineChars, hname, hc] using hne

theorem length_lineChars (lines : List String) : lines.length ≤ (lineChars lines).length := by
  induction lines with
  | nil => simp
  | cons line lines ih =>
      have hcons : lineChars (line :: lines) = line.toList ++ '\n' :: lineChars lines := by
        simp [lineChars]
      rw [hcons, List.length_append, List.length_cons, List.length_cons]
      omega

/-- **A plain table reads back**, its scalars before its subtables. -/
theorem parse_write {entries : List (String × Document)} (h : EntriesPlain 79 entries) :
    ∃ text, write entries = .ok text ∧
      parse text = some (.table (entryDocuments (tableItems entries))) := by
  obtain ⟨scalars, hscalars, hstate⟩ := exists_scalarLines h
  obtain ⟨tables, htables, hstate'⟩ := @exists_subtableLines 79 [] (by simp) (by decide) entries h
  have hreads := hstate.append hstate'
  have hjoin : ∀ lines : List String, (String.join (lines.map (· ++ "\n"))).toList
      = lineChars lines := by
    intro lines
    induction lines with
    | nil => rfl
    | cons line lines ih => simp [lineChars] at ih ⊢; exact ih
  refine ⟨String.join ((scalars ++ tables).map (· ++ "\n")), ?_, ?_⟩
  · simp only [write, hscalars, htables, bind, Except.bind]
  · -- the statements are found, and carried out they build the table
    have hstatements : statements? (lineChars (scalars ++ tables))
        = some (scalarStatements entries ++ subtableStatements [] entries) := by
      unfold statements?
      rw [if_neg (head_lineChars hreads)]
      exact readStatements_lines hreads (Nat.lt_succ_of_le (length_lineChars _))
    obtain ⟨draft, hrun, hclose⟩ := @run_subtables 79 [] [] [] rfl entries
      { opened := scalarItems entries } (scalarItems entries) h rfl
      (fun name inner hm => lookup_scalarItems h hm)
    have hscalarRun := @run_scalars 79 entries h {} (fun _ _ => rfl)
    have hall : run {} (scalarStatements entries ++ subtableStatements [] entries)
        = some draft := by
      rw [run_append, hscalarRun]
      exact hrun
    unfold run at hall
    simp only [parse, documentOf, hjoin, hstatements, hall, hclose, bind, Option.bind]
    rfl

end Toml

end Horizon
