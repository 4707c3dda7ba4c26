/-
  Horizon.Proofs.Toml.Tree
  ────────────────────────
  **TABLES UNDER HEADERS.**

  A header opens a table at a path, the next header closes it there.  On documents whose
  tables all have headers of their own, `Draft.close` and `Draft.openTable` are looking up
  and putting back the entries at a path, and these two follow the usual laws:

      entriesAt p (put p new t) = some new          put p b (put p a t) = put p b t

  So the statements that open a table, fill it and go on with its subtables leave the
  whole table in its place, by induction on its entries.
-/
import Horizon.Document.Toml.Reader

namespace Horizon.Toml

/-! ## §1. Names. -/

variable {name other : String} {item : Item} {entries : Entries}

theorem lookup_eq_none : lookup name entries = none ↔ ∀ entry ∈ entries, entry.1 ≠ name := by
  simp [lookup]

theorem lookup_append_self (h : lookup name entries = none) :
    lookup name (entries ++ [(name, item)]) = some item := by
  have hfind : entries.find? (·.1 == name) = none := by simpa [lookup] using h
  simp [lookup, List.find?_append, hfind]

theorem lookup_replace (new : Item) (h : lookup name entries = some item) :
    lookup name (replace name new entries) = some new := by
  induction entries with
  | nil => simp [lookup] at h
  | cons entry entries ih =>
      by_cases hname : entry.1 = name
      · simp [lookup, replace, hname]
      · have htail : lookup name entries = some item := by
          simpa [lookup, hname] using h
        have ih := ih htail
        simpa [lookup, replace, hname] using ih

theorem replace_replace (name : String) (new newer : Item) (entries : Entries) :
    replace name newer (replace name new entries) = replace name newer entries := by
  simp only [replace, List.map_map]
  refine List.map_congr_left fun entry _ => ?_
  by_cases hname : entry.1 = name
  · simp [hname]
  · simp [hname]

theorem replace_append (h : lookup name entries = none) (new : Item) :
    replace name new (entries ++ [(name, item)]) = entries ++ [(name, new)] := by
  rw [lookup_eq_none] at h
  have hsame : replace name new entries = entries := by
    unfold replace
    conv => rhs; rw [← List.map_id entries]
    refine List.map_congr_left fun entry hentry => ?_
    simp [h entry hentry]
  unfold replace at hsame ⊢
  rw [List.map_append, hsame]
  simp

/-! ## §2. Paths. -/

/-- The entries of the table at a path of tables with headers. -/
def entriesAt : List String → Entries → Option Entries
  | [], entries => some entries
  | name :: path, entries =>
    match lookup name entries with
    | some (.table .header inner) => entriesAt path inner
    | _ => none

/-- Put other entries in the place of those at a path. -/
def put (new : Entries) : List String → Entries → Entries
  | [], _ => new
  | name :: path, entries =>
    match lookup name entries with
    | some (.table origin inner) => replace name (.table origin (put new path inner)) entries
    | _ => entries

variable {path : List String} {old new : Entries} {tree : Entries}

theorem entriesAt_cons (h : entriesAt (name :: path) tree = some old) :
    ∃ inner, lookup name tree = some (.table .header inner) ∧ entriesAt path inner = some old := by
  unfold entriesAt at h
  split at h
  · rename_i inner hinner
    exact ⟨inner, hinner, h⟩
  · cases h

theorem put_cons {inner : Entries} (h : lookup name tree = some (.table .header inner)) :
    put new (name :: path) tree = replace name (.table .header (put new path inner)) tree := by
  rw [put, h]

/-- What was put at a path is found there. -/
theorem entriesAt_put (h : entriesAt path tree = some old) :
    entriesAt path (put new path tree) = some new := by
  induction path generalizing tree with
  | nil => rfl
  | cons name path ih =>
      obtain ⟨inner, hinner, hold⟩ := entriesAt_cons h
      rw [put_cons hinner, entriesAt, lookup_replace _ hinner]
      exact ih hold

/-- The last that was put at a path stays. -/
theorem put_put (h : entriesAt path tree = some old) (newer : Entries) :
    put newer path (put new path tree) = put newer path tree := by
  induction path generalizing tree with
  | nil => rfl
  | cons name path ih =>
      obtain ⟨inner, hinner, hold⟩ := entriesAt_cons h
      rw [put_cons hinner, put_cons (lookup_replace _ hinner), put_cons hinner, replace_replace,
        ih hold]

/-- A path that is one name longer. -/
theorem entriesAt_append {inner : Entries} (h : entriesAt path tree = some old)
    (hn : lookup name old = some (.table .header inner)) :
    entriesAt (path ++ [name]) tree = some inner := by
  induction path generalizing tree with
  | nil =>
      cases h
      simp [entriesAt, hn]
  | cons first path ih =>
      obtain ⟨between, hbetween, hold⟩ := entriesAt_cons h
      rw [List.cons_append, entriesAt, hbetween]
      exact ih hold

theorem put_append {inner : Entries} (h : entriesAt path tree = some old)
    (hn : lookup name old = some (.table .header inner)) :
    put new (path ++ [name]) tree = put (replace name (.table .header new) old) path tree := by
  -- along the path from the outermost table in; the last name is one level further
  induction path generalizing tree with
  | nil =>
      cases h
      rw [List.nil_append, put_cons hn]
      rfl
  | cons first path ih =>
      obtain ⟨between, hbetween, hold⟩ := entriesAt_cons h
      rw [List.cons_append, put_cons hbetween, put_cons hbetween, ih hold]

/-- `alter` changes the entries at the path and nothing else. -/
theorem alter_eq (change : Origin → Entries → Option Entries)
    (h : entriesAt path tree = some old) :
    alter false change path .header tree
      = (change .header old).map fun new => put new path tree := by
  induction path generalizing tree with
  | nil =>
      cases h
      simp [alter, put]
  | cons name path ih =>
      obtain ⟨inner, hinner, hold⟩ := entriesAt_cons h
      rw [alter, hinner]
      -- a table with a header of its own may be changed under any path
      simp only [Bool.false_and, Bool.false_eq_true, if_false, ih hold, bind, Option.bind]
      cases change .header old with
      | none => rfl
      | some new => simp [put_cons hinner]

theorem carried_eq (h : entriesAt path tree = some old) :
    Draft.openTable.carried path name tree = (Draft.reopen name old).map (·.2) := by
  induction path generalizing tree with
  | nil =>
      cases h
      rfl
  | cons first path ih =>
      obtain ⟨inner, hinner, hold⟩ := entriesAt_cons h
      rw [Draft.openTable.carried, hinner]
      exact ih hold

end Horizon.Toml
