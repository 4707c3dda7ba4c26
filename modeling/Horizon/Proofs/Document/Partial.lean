/-
  Horizon.Proofs.Document.Partial
  ───────────────────────────────
  **TABLES WITH KEYS LEFT OUT AND KEYS ADDED.**

  An edited table lacks some of the keys that were written, at any depth, has others that
  are no keys of its structure, and lists them all in any order:

      written    a = 1       b = 2       t = { x = 3, y = 4 }
      edited     u = "…"     t = { y = 4, z = [] }     a = 1
                 added       x left out, z added       b left out

  A structure that may lack fields is read from every edited table of one of its values.
  It is the blank structure with the fields of the value that were kept, each of them
  edited itself if it is a table.
-/
import Horizon.Proofs.Document.Survival

namespace Horizon

open Json (ReadAs)

/-! ## §1. Edited documents. -/

/-- The keys that lead to an entry, from the outermost table on. -/
abbrev KeyPath := List String

/-- What may stand in a table of the notation for a scalar: the scalar itself, or what the
notation reads from its text. -/
inductive Dialect.Reads : Dialect → Document → Document → Prop where
  | written {d value} : Reads d value value
  | json {value read} (text : ReadAs value read) : Reads .json value read
  | toml {value} : Reads .toml value value.asRead

mutual

/-- The second document is the first one, which stands at a path, without the keys that
were deleted, with other keys added, in any order. -/
inductive Document.EditedTo (d : Dialect) (deleted : List KeyPath) :
    KeyPath → Document → Document → Prop where
  /-- A scalar is kept. -/
  | scalar {path value read} (scalar : value.isTable = false) (reads : d.Reads value read) :
      Document.EditedTo d deleted path value read
  /-- A table consists of what is kept of it and of what was added. -/
  | table {path entries kept added edited} (keeps : EntriesEditedTo d deleted path entries kept)
      (unknown : ∀ entry ∈ added, entry.1 ∉ entries.map (·.1))
      (distinct : (edited.map (·.1)).Nodup) (order : edited.Perm (kept ++ added)) :
      Document.EditedTo d deleted path (.table entries) (.table edited)

/-- What is kept of the entries of the table at a path. -/
inductive EntriesEditedTo (d : Dialect) (deleted : List KeyPath) :
    KeyPath → List (String × Document) → List (String × Document) → Prop where
  | nil {path} : EntriesEditedTo d deleted path [] []
  /-- The key was deleted. -/
  | delete {path name value entries kept} (gone : path ++ [name] ∈ deleted)
      (more : EntriesEditedTo d deleted path entries kept) :
      EntriesEditedTo d deleted path ((name, value) :: entries) kept
  /-- The key was kept, and what stands there may be edited. -/
  | keep {path name value edited entries kept} (stays : path ++ [name] ∉ deleted)
      (inner : Document.EditedTo d deleted (path ++ [name]) value edited)
      (more : EntriesEditedTo d deleted path entries kept) :
      EntriesEditedTo d deleted path ((name, value) :: entries) ((name, edited) :: kept)

end

variable {α β : Type} {d : Dialect} {deleted : List KeyPath} {path : KeyPath}

theorem Document.EditedTo.of_scalar {value edited : Document}
    (h : value.EditedTo d deleted path edited) (scalar : value.isTable = false) :
    d.Reads value edited := by
  cases h with
  | scalar _ reads => exact reads
  | table => cases scalar

/-! ## §2. Scalars. -/

/-- A text is read as one document only. -/
theorem Json.ReadAs.unique {document read other : Document} (h : ReadAs document read)
    (h' : ReadAs document other) : read = other :=
  Option.some.inj (h.parse.symm.trans h'.parse)

/-- A scalar that both notations read as it is stands for itself only. -/
theorem Dialect.Reads.eq {value read : Document} (h : d.Reads value read)
    (json : ReadAs value value) (toml : value.asRead = value) : read = value := by
  cases h with
  | written => rfl
  | json text => exact text.unique json
  | toml => exact toml

/-- The codec reads the value from whatever may stand for it in the notation. -/
def Codec.ReadsBack (codec : Codec α) (d : Dialect) (a : α) : Prop :=
  ∀ read, d.Reads (codec.encode a) read → codec.decode d read = .ok a

namespace Codec

/-- A scalar that both notations read as it is reads back if its codec takes it. -/
theorem readsBack_of_decode {codec : Codec α} {a : α}
    (json : ReadAs (codec.encode a) (codec.encode a))
    (toml : (codec.encode a).asRead = codec.encode a)
    (decodes : codec.decode d (codec.encode a) = .ok a) : codec.ReadsBack d a := by
  intro read reads
  rw [reads.eq json toml, decodes]

variable (d)

theorem readsBack_boolean (value : Bool) : boolean.ReadsBack d value :=
  readsBack_of_decode (Json.readAs_boolean value) rfl rfl

theorem readsBack_byte (value : UInt8) : byte.ReadsBack d value := by
  have small := value.toNat_lt
  exact readsBack_of_decode (readAs_natural (by omega)) rfl (decode_byte d value)

theorem readsBack_word (value : UInt32) : word.ReadsBack d value := by
  have small := value.toNat_lt
  exact readsBack_of_decode (readAs_natural (by omega)) rfl (decode_word d value)

theorem readsBack_doubleWord (value : UInt64) : doubleWord.ReadsBack d value :=
  readsBack_of_decode (readAs_natural value.toNat_lt) rfl (decode_doubleWord d value)

theorem readsBack_version {value : SystemVersion} (h : value.LowByteClear) :
    version.ReadsBack d value :=
  readsBack_of_decode (Json.readAs_text value.text) rfl (decode_version d h)

theorem readsBack_duration (value : Duration) : duration.ReadsBack d value :=
  readsBack_of_decode (Json.readAs_text value.text) rfl (decode_duration d value)

/-- In JSON a floating-point number reads back if it does so on its own. -/
theorem readsBack_single_json {value : Binary.Single}
    (h : single.ofJson? (single.toJson value) = some value) : single.ReadsBack .json value := by
  intro read reads
  cases reads with
  | written => rfl
  | json text =>
      -- there is one reading of the text, and `h` says that the codec takes it
      unfold ofJson? toJson at h
      rw [text.parse, Option.bind_some] at h
      cases outcome : single.decode .json read with
      | error cause =>
          rw [outcome] at h
          cases h
      | ok x =>
          rw [outcome] at h
          exact congrArg Except.ok (Option.some.inj h)

/-- In TOML every finite floating-point number reads back. -/
theorem readsBack_single_toml {value : Binary.Single} (h : value.datum.IsFinite) :
    single.ReadsBack .toml value := by
  intro read reads
  cases reads with
  | written => rfl
  | toml => exact congrArg Except.ok (Binary.Single.toSingle_toDouble h).2

end Codec

/-! ## §3. Structures. -/

/-- However what is written for `a` is edited, the codec reads `x` from it. -/
def Codec.Overrides (codec : Codec α) (d : Dialect) (deleted : List KeyPath) (path : KeyPath)
    (a x : α) : Prop :=
  ∀ edited, (codec.encode a).EditedTo d deleted path edited → codec.decode d edited = .ok x

/-- A scalar is not edited. -/
theorem Codec.ReadsBack.overrides {codec : Codec α} {a : α} (h : codec.ReadsBack d a)
    (scalar : (codec.encode a).isTable = false) : codec.Overrides d deleted path a a :=
  fun edited edits => h edited (edits.of_scalar scalar)

/-- However what is written for a field of `a` is edited, it restores the field in any
structure. -/
def Field.Overrides (field : Field α) (d : Dialect) (deleted : List KeyPath) (path : KeyPath)
    (a : α) (restore : α → α) : Prop :=
  ∀ edited, (field.write a).EditedTo d deleted path edited →
    ∀ b, field.read d edited b = .ok (restore b)

/-- Restoring the fields of `a` that were not deleted, one after another, takes one
structure to another. -/
inductive Overlaid (d : Dialect) (deleted : List KeyPath) (path : KeyPath) (a : α) :
    List (Field α) → α → α → Prop where
  | nil {b} : Overlaid d deleted path a [] b b
  | cons {field fields restore b c}
      (overrides : field.Overrides d deleted (path ++ [field.name]) a restore)
      (more : Overlaid d deleted path a fields
        (if path ++ [field.name] ∈ deleted then b else restore b) c) :
      Overlaid d deleted path a (field :: fields) b c

/-- A field with a codec is set to what the codec reads, or to what it was if its key was
deleted. -/
theorem Overlaid.of {name : String} {codec : Codec β} {get : α → β} {set : β → α → α}
    {fields : List (Field α)} {a b c : α} {x : β}
    (overrides : codec.Overrides d deleted (path ++ [name]) (get a) x) (own : set (get b) b = b)
    (more : Overlaid d deleted path a fields
      (set (if path ++ [name] ∈ deleted then get b else x) b) c) :
    Overlaid d deleted path a (Field.of name codec get set :: fields) b c := by
  have reads : (Field.of name codec get set).Overrides d deleted (path ++ [name]) a (set x) := by
    intro edited edits b
    show (codec.decode d edited).map _ = _
    rw [overrides edited edits]
    rfl
  have choice : (if path ++ [name] ∈ deleted then b else set x b)
      = set (if path ++ [name] ∈ deleted then get b else x) b := by
    by_cases gone : path ++ [name] ∈ deleted
    · rw [if_pos gone, if_pos gone, own]
    · rw [if_neg gone, if_neg gone]
  refine .cons reads ?_
  show Overlaid d deleted path a fields (if path ++ [name] ∈ deleted then b else set x b) c
  rw [choice]
  exact more

namespace Record

variable {r : Record α} {a b c : α}

/-- Reading what is kept of the entries of `a` restores the fields that were not deleted. -/
theorem foldlM_kept (names : (r.fields.map (·.name)).Nodup) {fields : List (Field α)}
    (known : ∀ field ∈ fields, field ∈ r.fields) (overlaid : Overlaid d deleted path a fields b c)
    {kept : List (String × Document)}
    (keeps : EntriesEditedTo d deleted path
      (fields.map fun field => (field.name, field.write a)) kept) :
    kept.foldlM (r.readEntry d) b = .ok c := by
  -- along the fields: each is found by its name, or its key is not there
  induction overlaid generalizing kept with
  | nil =>
      cases keeps
      rfl
  | @cons field fields restore b c overrides more ih =>
      have rest : ∀ f ∈ fields, f ∈ r.fields :=
        fun f member => known f (List.mem_cons_of_mem _ member)
      rw [List.map_cons] at keeps
      cases keeps with
      | delete gone keeps =>
          have after := ih rest keeps
          rwa [if_pos gone] at after
      | @keep _ _ _ edited _ kept stays inner keeps =>
          have after := ih rest keeps
          rw [if_neg stays] at after
          have own : r.readEntry d b (field.name, edited) = .ok (restore b) := by
            unfold readEntry
            dsimp only
            rw [find_name names (known field List.mem_cons_self)]
            exact overrides edited inner b
          rw [List.foldlM_cons, own]
          exact after

/-- Entries of unknown names are passed over. -/
theorem foldlM_unknown {added : List (String × Document)}
    (unknown : ∀ entry ∈ added, entry.1 ∉ r.fields.map (·.name)) (b : α) :
    added.foldlM (r.readEntry d) b = .ok b := by
  induction added with
  | nil => rfl
  | cons entry added ih =>
      have none : r.fields.find? (·.name == entry.1) = none := by
        rw [List.find?_eq_none]
        intro field member same
        refine unknown entry List.mem_cons_self ?_
        rw [← beq_iff_eq.mp same]
        exact List.mem_map_of_mem member
      have passed : r.readEntry d b entry = .ok b := by
        unfold readEntry
        rw [none]
      rw [List.foldlM_cons, passed]
      exact ih fun e member => unknown e (List.mem_cons_of_mem _ member)

/-- **A structure that may lack fields is read from every edited table**: the fields that
were kept override the blank structure. -/
theorem Independent.overrides (h : r.Independent) (partly : r.complete = false)
    (overlaid : Overlaid d deleted path a r.fields r.blank c) :
    r.codec.Overrides d deleted path a c := by
  intro document edits
  have shape : r.codec.encode a
      = .table (r.fields.map fun field => (field.name, field.write a)) := rfl
  rw [shape] at edits
  cases edits with
  | scalar scalar => cases scalar
  | @table _ _ kept added edited keeps unknown distinct order =>
      have names : (r.fields.map fun field => (field.name, field.write a)).map (·.1)
          = r.fields.map (·.name) := by
        rw [List.map_map]
        rfl
      rw [names] at unknown
      -- in order: first what was kept, then what was added
      have inOrder : (kept ++ added).foldlM (r.readEntry d) r.blank = .ok c := by
        rw [List.foldlM_append, foldlM_kept h.distinct (fun _ member => member) overlaid keeps]
        exact foldlM_unknown unknown c
      have folded : edited.foldlM (r.readEntry d) r.blank = .ok c :=
        h.foldlM_perm order.symm ((order.map _).nodup_iff.mp distinct) inOrder
      show r.readTable d edited = .ok c
      refine Except.bind_eq_ok.mpr ⟨c, folded, ?_⟩
      rw [partly]
      rfl

end Record

end Horizon
