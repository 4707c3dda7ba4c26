/-
  Horizon.Proofs.Document.Order
  ─────────────────────────────
  **THE ORDER OF ENTRIES DOES NOT MATTER.**

  A table is read entry by entry, each into what the ones before it have left.  As long as
  no name occurs twice and fields are apart, which is to say that reading one does not
  disturb another, the entries may come in any order:

      entries in some order  ⟶  the same entries in the order of the fields  ⟶  the list

  and in the order of the fields a table is read just like the list of its contents.
-/
import Horizon.Proofs.Document.Carry

namespace Horizon

variable {α β γ : Type}

/-! ## §1. Fields that are apart. -/

/-- Both fields can be read in either order, to the same effect. -/
def Field.Apart (first second : Field α) : Prop :=
  ∀ d x y a c, (∃ b, first.read d x a = .ok b ∧ second.read d y b = .ok c) ↔
    ∃ b, second.read d y a = .ok b ∧ first.read d x b = .ok c

instance : Std.Symm (Field.Apart (α := α)) where
  symm _ _ apart d x y a c := (apart d y x a c).symm

/-- Fields are apart if setting one does not touch the other. -/
theorem Field.apart_of {name name' : String} {codec : Codec β} {codec' : Codec γ}
    {get : α → β} {get' : α → γ} {set : β → α → α} {set' : γ → α → α}
    (h : ∀ x y a, set' y (set x a) = set x (set' y a)) :
    (Field.of name codec get set).Apart (Field.of name' codec' get' set') := by
  intro d x y a c
  show (∃ b, (codec.decode d x).map (set · a) = .ok b ∧ (codec'.decode d y).map (set' · b) = .ok c)
    ↔ ∃ b, (codec'.decode d y).map (set' · a) = .ok b ∧ (codec.decode d x).map (set · b) = .ok c
  cases codec.decode d x with
  | error cause =>
      constructor
      · rintro ⟨_, ⟨⟩, -⟩
      · rintro ⟨_, -, ⟨⟩⟩
  | ok u =>
      cases codec'.decode d y with
      | error cause =>
          constructor
          · rintro ⟨_, -, ⟨⟩⟩
          · rintro ⟨_, ⟨⟩, -⟩
      | ok v =>
          constructor
          · rintro ⟨_, ⟨⟩, ⟨⟩⟩
            exact ⟨_, rfl, congrArg Except.ok (h u v a).symm⟩
          · rintro ⟨_, ⟨⟩, ⟨⟩⟩
            exact ⟨_, rfl, congrArg Except.ok (h u v a)⟩

namespace Record

/-- No two fields have the same name, and any two are apart. -/
structure Independent (r : Record α) : Prop where
  distinct : (r.fields.map (·.name)).Nodup
  apart : r.fields.Pairwise Field.Apart

variable {r : Record α} {d : Dialect}

/-! ## §2. Entries of a table. -/

/-- Two entries of different names can be read in either order. -/
theorem Independent.swap (h : r.Independent) {first second : String × Document}
    (different : first.1 ≠ second.1) {a b c : α} (one : r.readEntry d a first = .ok b)
    (two : r.readEntry d b second = .ok c) :
    ∃ b', r.readEntry d a second = .ok b' ∧ r.readEntry d b' first = .ok c := by
  unfold readEntry at *
  -- a name that is no field is passed over, so only two fields can get in each other's way
  cases found : r.fields.find? (·.name == first.1) with
  | none =>
      rw [found] at one
      cases one
      exact ⟨c, two, rfl⟩
  | some field =>
      cases found' : r.fields.find? (·.name == second.1) with
      | none =>
          rw [found'] at two
          cases two
          exact ⟨a, rfl, by rwa [found] at one⟩
      | some field' =>
          rw [found] at one
          rw [found'] at two
          have ne : field ≠ field' := by
            rintro rfl
            have name := List.find?_some found
            have name' := List.find?_some found'
            exact different ((beq_iff_eq.mp name).symm.trans (beq_iff_eq.mp name'))
          have apart := h.apart.forall (List.mem_of_find?_eq_some found)
            (List.mem_of_find?_eq_some found') ne
          exact (apart d first.2 second.2 a c).mp ⟨b, one, two⟩

/-- **Entries of different names can be read in any order.** -/
theorem Independent.foldlM_perm (h : r.Independent) {entries entries' : List (String × Document)}
    (same : entries.Perm entries') (distinct : (entries.map (·.1)).Nodup) {a c : α}
    (read : entries.foldlM (r.readEntry d) a = .ok c) :
    entries'.foldlM (r.readEntry d) a = .ok c := by
  induction same generalizing a with
  | nil => exact read
  | cons entry same ih =>
      rw [List.map_cons, List.nodup_cons] at distinct
      rw [List.foldlM_cons, Except.bind_eq_ok] at read ⊢
      obtain ⟨b, first, rest⟩ := read
      exact ⟨b, first, ih distinct.2 rest⟩
  | swap entry entry' entries =>
      -- whatever comes behind the two starts from the same structure
      simp only [List.map_cons, List.nodup_cons, List.mem_cons, not_or] at distinct
      simp only [List.foldlM_cons, Except.bind_eq_ok] at read ⊢
      obtain ⟨b, first, b', second, rest⟩ := read
      obtain ⟨b'', second', first'⟩ := h.swap distinct.1.1 first second
      exact ⟨b'', second', b', first', rest⟩
  | trans same _ ih ih' =>
      exact ih' ((same.map _).nodup_iff.mp distinct) (ih distinct read)

/-- In the order of the fields the entries of a table are read just like a list. -/
theorem foldlM_declared (distinct : (r.fields.map (·.name)).Nodup) {fields : List (Field α)}
    (known : ∀ field ∈ fields, field ∈ r.fields) {items : List Document}
    (length : items.length = fields.length) (a : α) :
    ((fields.map (·.name)).zip items).foldlM (r.readEntry d) a = readItems d a fields items := by
  induction fields generalizing items a with
  | nil =>
      rw [readItems]
      · rfl
      · rintro _ _ _ _ ⟨⟩
  | cons field fields ih =>
      cases items with
      | nil => cases length
      | cons item items =>
          -- the name of a field leads back to that field, since no other has it
          have own : r.readEntry d a (field.name, item) = field.read d item a := by
            unfold readEntry
            dsimp only
            rw [find_name distinct (known field List.mem_cons_self)]
          rw [List.map_cons, List.zip_cons_cons, List.foldlM_cons, own, readItems]
          refine bind_congr fun b => ?_
          exact ih (fun f hf => known f (List.mem_cons_of_mem _ hf))
            (Nat.succ.inj length) b

/-! ## §3. Whole structures. -/

section

variable {items : List Document} (length : items.length = r.fields.length) {a : α}
  (read : readItems d r.blank r.fields items = .ok a)

include length read

/-- **A structure is read from the list of its fields.** -/
theorem decode_list : r.codec.decode d (.list items) = .ok a := by
  show r.readList d items = .ok a
  unfold readList
  rw [read]
  show (if r.complete = true ∧ items.length < r.fields.length then Except.error _
    else if d = .json ∧ r.fields.length < items.length then .error _ else .ok a) = _
  rw [if_neg (by omega), if_neg (by omega)]

/-- **A structure is read from the table of its fields, in whatever order.** -/
theorem Independent.decode_table (h : r.Independent) {entries : List (String × Document)}
    (same : ((r.fields.map (·.name)).zip items).Perm entries) :
    r.codec.decode d (.table entries) = .ok a := by
  have names : (((r.fields.map (·.name)).zip items).map (·.1)) = r.fields.map (·.name) :=
    List.map_fst_zip (by rw [List.length_map, length])
  have folded : entries.foldlM (r.readEntry d) r.blank = .ok a := by
    refine h.foldlM_perm same (by rw [names]; exact h.distinct) ?_
    rw [foldlM_declared h.distinct (fun _ hf => hf) length, read]
  -- every field is among the entries, so none is missing
  have present : r.fields.find? (fun field => !entries.any (·.1 == field.name)) = none := by
    rw [List.find?_eq_none]
    intro field member
    have name : field.name ∈ entries.map (·.1) := by
      rw [← (same.map _).mem_iff, names]
      exact List.mem_map_of_mem member
    obtain ⟨entry, found, equal⟩ := List.mem_map.mp name
    have any : entries.any (·.1 == field.name) = true :=
      List.any_eq_true.mpr ⟨entry, found, beq_iff_eq.mpr equal⟩
    rw [any]
    exact Bool.false_ne_true
  show r.readTable d entries = .ok a
  refine Except.bind_eq_ok.mpr ⟨a, folded, ?_⟩
  rw [present]
  exact ite_self _

end

end Record

end Horizon
