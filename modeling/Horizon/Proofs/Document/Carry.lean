/-
  Horizon.Proofs.Document.Carry
  ─────────────────────────────
  **CODECS CARRY VALUES THROUGH TOML.**

  A codec carries a value if what it writes for the value has a TOML form and is read
  back as the value.  A structure's codec does so if every field does: reading starts from
  the blank structure and each entry restores one field,

      blank  ⟶  blank with scalars restored  ⟶  … with subtables restored  =  the value

  since scalars are read back before subtables.  In the other direction, whatever a codec
  reads from a text keeps what each of its fields keeps.
-/
import Horizon.Proofs.Duration.RoundTrip
import Horizon.Proofs.Toml.Integers
import Horizon.Proofs.Toml.RoundTrip
import Horizon.Proofs.Version.RoundTrip
import Horizon.Document.Decode

namespace Horizon

/-! ## §1. Documents as they are read back. -/

/-- What a value is read back as from TOML. -/
def Document.reread : Document → Document
  | .table entries => .table (Toml.entryDocuments (Toml.tableItems entries))
  | value => value.asRead

/-- The document is a table. -/
def Document.isTable : Document → Bool
  | .table _ => true
  | _ => false

namespace Toml

theorem entryDocuments_scalarItems (entries : List (String × Document)) :
    entryDocuments (scalarItems entries)
      = (entries.filter (!·.2.isTable)).map fun entry => (entry.1, entry.2.reread) := by
  induction entries with
  | nil => rfl
  | cons entry entries ih =>
      obtain ⟨name, value⟩ := entry
      -- a subtable makes no scalar item, and the filter drops it as well
      cases value with
      | table inner => exact ih
      | _ => exact congrArg (List.cons _) ih

theorem entryDocuments_subtableItems (entries : List (String × Document)) :
    entryDocuments (subtableItems entries)
      = (entries.filter (·.2.isTable)).map fun entry => (entry.1, entry.2.reread) := by
  induction entries with
  | nil => rfl
  | cons entry entries ih =>
      obtain ⟨name, value⟩ := entry
      cases value with
      | table inner => exact congrArg (List.cons _) ih
      | _ => exact ih

/-- A table is read back with its scalars before its subtables. -/
theorem reread_table (entries : List (String × Document)) :
    (Document.table entries).reread
      = .table ((entries.filter (!·.2.isTable) ++ entries.filter (·.2.isTable)).map
          fun entry => (entry.1, entry.2.reread)) := by
  have happend : ∀ first second : Entries, entryDocuments (first ++ second)
      = entryDocuments first ++ entryDocuments second := by
    intro first second
    simp only [entryDocuments_eq, List.map_append]
  rw [Document.reread, tableItems, happend, entryDocuments_scalarItems,
    entryDocuments_subtableItems, List.map_append]

end Toml

/-! ## §2. Scalars. -/

/-- The codec carries the value: what is written for it has a TOML form with tables nested
at most `depth` deep and is read back as the value. -/
structure Codec.Carries {α : Type} (codec : Codec α) (depth : Nat) (a : α) : Prop where
  plain : (codec.encode a).Plain depth
  reads : codec.decode .toml (codec.encode a).reread = .ok a

namespace Document

theorem plain_of_legible {value : Document} (h : value.Legible) (depth : Nat) :
    value.Plain depth := by
  cases value with
  | table => cases h
  | _ => cases depth <;> exact h

theorem plain_table {depth : Nat} {entries : List (String × Document)} :
    (table entries).Plain (depth + 1) ↔ EntriesPlain depth entries :=
  Iff.rfl

theorem reread_of_legible {value : Document} (h : value.Legible) :
    value.reread = value.asRead := by
  cases value with
  | table => cases h
  | _ => rfl

theorem legible_natCast {n : Nat} (h : n < 2 ^ 63) : (integer n).Legible := by
  show -2 ^ 63 ≤ (n : Int) ∧ (n : Int) < 2 ^ 63
  omega

end Document

namespace Codec

theorem carries_of_legible {α : Type} {codec : Codec α} {a : α} (depth : Nat)
    (hl : (codec.encode a).Legible) (hr : codec.decode .toml (codec.encode a).asRead = .ok a) :
    codec.Carries depth a := by
  refine ⟨Document.plain_of_legible hl depth, ?_⟩
  rw [Document.reread_of_legible hl, hr]

theorem carries_boolean (depth : Nat) (value : Bool) : boolean.Carries depth value :=
  carries_of_legible depth trivial rfl

theorem integerWithin_of_mem {name : String} {least bound i : Int} (d : Dialect)
    (above : least ≤ i) (below : i < bound) :
    integerWithin name least bound d (.integer i) = .ok i := by
  have inside : least ≤ i ∧ i < bound := ⟨above, below⟩
  simp only [integerWithin, if_pos inside]

/-- A whole number of a type is read in either dialect. -/
theorem decode_byte (d : Dialect) (value : UInt8) :
    byte.decode d (byte.encode value) = .ok value := by
  have below : (value.toNat : Int) < 0x100 := Int.ofNat_lt.mpr value.toNat_lt
  simp only [byte, integerWithin_of_mem d (Int.natCast_nonneg _) below]
  simp only [Except.map, Int.toNat_natCast, UInt8.ofNat_toNat]

theorem decode_word (d : Dialect) (value : UInt32) :
    word.decode d (word.encode value) = .ok value := by
  have below : (value.toNat : Int) < 0x1_0000_0000 := Int.ofNat_lt.mpr value.toNat_lt
  simp only [word, integerWithin_of_mem d (Int.natCast_nonneg _) below]
  simp only [Except.map, Int.toNat_natCast, UInt32.ofNat_toNat]

theorem decode_doubleWord (d : Dialect) (value : UInt64) :
    doubleWord.decode d (doubleWord.encode value) = .ok value := by
  have below : (value.toNat : Int) < 0x1_0000_0000_0000_0000 := Int.ofNat_lt.mpr value.toNat_lt
  simp only [doubleWord, integerWithin_of_mem d (Int.natCast_nonneg _) below]
  simp only [Except.map, Int.toNat_natCast, UInt64.ofNat_toNat]

theorem decode_version (d : Dialect) {value : SystemVersion} (h : value.LowByteClear) :
    version.decode d (version.encode value) = .ok value := by
  have parsed := SystemVersion.parse_text h
  simp only [version, text, parsed, bind, Except.bind]

theorem decode_duration (d : Dialect) (value : Duration) :
    duration.decode d (duration.encode value) = .ok value := by
  have parsed := Duration.parse_text value
  simp only [duration, text, parsed, bind, Except.bind]

theorem carries_byte (depth : Nat) (value : UInt8) : byte.Carries depth value := by
  have hv := value.toNat_lt
  exact carries_of_legible depth (Document.legible_natCast (by omega)) (decode_byte .toml value)

theorem carries_word (depth : Nat) (value : UInt32) : word.Carries depth value := by
  have hv := value.toNat_lt
  exact carries_of_legible depth (Document.legible_natCast (by omega)) (decode_word .toml value)

/-- A 64-bit value needs a clear top bit: the notation's whole numbers have a sign. -/
theorem carries_doubleWord (depth : Nat) {value : UInt64} (h : value.toNat < 2 ^ 63) :
    doubleWord.Carries depth value :=
  carries_of_legible depth (Document.legible_natCast h) (decode_doubleWord .toml value)

/-- A number is written in the shorter format and read in the longer one. -/
theorem carries_single (depth : Nat) {value : Binary.Single} (h : value.datum.IsFinite) :
    single.Carries depth value :=
  carries_of_legible depth h (congrArg Except.ok (Binary.Single.toSingle_toDouble h).2)

theorem carries_version (depth : Nat) {value : SystemVersion} (h : value.LowByteClear) :
    version.Carries depth value :=
  carries_of_legible depth trivial (decode_version .toml h)

theorem carries_duration (depth : Nat) (value : Duration) : duration.Carries depth value :=
  carries_of_legible depth trivial (decode_duration .toml value)

/-- A version that was read has a clear low byte. -/
theorem lowByteClear_of_decode {document : Document} {v : SystemVersion}
    (h : version.decode .toml document = .ok v) : v.LowByteClear := by
  cases document with
  | text value =>
      simp only [version, text, bind, Except.bind] at h
      split at h
      · rename_i hparse
        cases h
        exact SystemVersion.lowByteClear_of_parse hparse
      · cases h
  | _ => cases h

/-- A 64-bit value that was read has a clear top bit. -/
theorem lt_of_decode {document : Document} {value : UInt64} (hd : document.Within)
    (h : doubleWord.decode .toml document = .ok value) : value.toNat < 2 ^ 63 := by
  cases hd with
  | @integer i hi =>
      -- the reader of settings takes 64 bits, but the notation offers 63 only
      simp only [doubleWord, integerWithin] at h
      split at h
      · cases h
        have hle : i.toNat % 2 ^ 64 ≤ i.toNat := Nat.mod_le _ _
        rw [UInt64.toNat_ofNat']
        omega
      · cases h
  | _ => cases h

end Codec

/-! ## §3. Structures. -/

/-- A reading that goes on succeeds if and only if both of its parts do. -/
theorem Except.bind_eq_ok {α β ε : Type} {x : Except ε α} {f : α → Except ε β} {b : β} :
    (x >>= f) = .ok b ↔ ∃ a, x = .ok a ∧ f a = .ok b := by
  cases x with
  | error cause =>
      constructor
      · intro h
        cases h
      · rintro ⟨_, h, -⟩
        cases h
  | ok a =>
      constructor
      · intro h
        exact ⟨a, rfl, h⟩
      · rintro ⟨_, ⟨⟩, h⟩
        exact h

section Structures

variable {α β : Type}

/-- What is written for a field of `a` restores the field in any structure. -/
structure Field.Restores (field : Field α) (depth : Nat) (a : α) (restore : α → α) : Prop where
  plain : (field.write a).Plain depth
  reads : ∀ b, field.read .toml (field.write a).reread b = .ok (restore b)

theorem Field.restores_of {name : String} {codec : Codec β} {get : α → β} {set : β → α → α}
    {depth : Nat} {a : α} (h : codec.Carries depth (get a)) :
    (Field.of name codec get set).Restores depth a (set (get a)) := by
  refine ⟨h.plain, fun b => ?_⟩
  show (codec.decode .toml (codec.encode (get a)).reread).map _ = _
  rw [h.reads]
  rfl

/-- Restoring the fields of `a` one after another takes one structure to another. -/
inductive Restored (depth : Nat) (a : α) : List (Field α) → α → α → Prop where
  | nil {b} : Restored depth a [] b b
  | cons {field fields restore b c} (restores : field.Restores depth a restore)
      (more : Restored depth a fields (restore b) c) : Restored depth a (field :: fields) b c

theorem Restored.plain {depth : Nat} {a b c : α} {fields : List (Field α)}
    (h : Restored depth a fields b c) : ∀ field ∈ fields, (field.write a).Plain depth := by
  induction h with
  | nil => simp
  | cons restores _ ih =>
      intro field hfield
      rcases List.mem_cons.mp hfield with rfl | hfield
      · exact restores.plain
      · exact ih field hfield

namespace Record

/-- The fields have bare keys as names, no name twice, and may be left out. -/
structure Proper (r : Record α) : Prop where
  keys : ∀ field ∈ r.fields, Toml.BareKey field.name
  distinct : (r.fields.map (·.name)).Nodup
  partly : r.complete = false

/-- What is written for a structure. -/
def entries (r : Record α) (a : α) : List (String × Document) :=
  r.fields.map fun field => (field.name, field.write a)

/-- The fields in the order in which they are read back. -/
def readOrder (r : Record α) (a : α) : List (Field α) :=
  r.fields.filter (fun field => !(field.write a).isTable) ++
    r.fields.filter fun field => (field.write a).isTable

theorem reread_entries (r : Record α) (a : α) :
    (Document.table (r.entries a)).reread
      = .table ((r.readOrder a).map fun field => (field.name, (field.write a).reread)) := by
  rw [Toml.reread_table, entries, readOrder, List.filter_map, List.filter_map,
    ← List.map_append, List.map_map]
  rfl

theorem mem_readOrder {r : Record α} {a : α} {field : Field α} :
    field ∈ r.readOrder a ↔ field ∈ r.fields := by
  simp only [readOrder, List.mem_append, List.mem_filter]
  cases (field.write a).isTable <;> simp

/-- A field is found by its name. -/
theorem find_name {fields : List (Field α)} (hd : (fields.map (·.name)).Nodup)
    {field : Field α} (hf : field ∈ fields) :
    fields.find? (·.name == field.name) = some field := by
  -- the first field of the name is the field itself, since no other has the name
  induction fields with
  | nil => cases hf
  | cons first fields ih =>
      rw [List.map_cons, List.nodup_cons] at hd
      rcases List.mem_cons.mp hf with rfl | hf
      · simp
      · have hne : first.name ≠ field.name := by
          intro heq
          exact hd.1 (heq ▸ List.mem_map_of_mem hf)
        rw [List.find?_cons_of_neg (by simpa using hne)]
        exact ih hd.2 hf

/-- Reading what is written for fields of a structure restores them. -/
theorem foldlM_readEntry {r : Record α} (h : r.Proper) {depth : Nat} {a b c : α}
    {fields : List (Field α)} (hf : ∀ field ∈ fields, field ∈ r.fields)
    (hr : Restored depth a fields b c) :
    (fields.map fun field => (field.name, (field.write a).reread)).foldlM
      (r.readEntry .toml) b = .ok c := by
  -- along the restored fields: each entry finds its own field, whatever the order is
  induction hr with
  | nil => rfl
  | @cons field fields restore b c restores more ih =>
      have hread : r.readEntry .toml b (field.name, (field.write a).reread)
          = .ok (restore b) := by
        have hfind := find_name h.distinct (hf field (by simp))
        simp only [readEntry, hfind, restores.reads]
      rw [List.map_cons, List.foldlM_cons, hread]
      exact ih fun field hfield => hf field (by simp [hfield])

theorem entriesPlain_map {depth : Nat} {a : α} {fields : List (Field α)}
    (hk : ∀ field ∈ fields, Toml.BareKey field.name) (hd : (fields.map (·.name)).Nodup)
    (hp : ∀ field ∈ fields, (field.write a).Plain depth) :
    EntriesPlain depth (fields.map fun field => (field.name, field.write a)) := by
  induction fields with
  | nil => trivial
  | cons field fields ih =>
      rw [List.map_cons, List.nodup_cons] at hd
      refine ⟨hk field (by simp), ?_, hp field (by simp), ih ?_ hd.2 ?_⟩
      · intro entry hentry heq
        obtain ⟨other, hother, rfl⟩ := List.mem_map.mp hentry
        exact hd.1 (heq ▸ List.mem_map_of_mem hother)
      · exact fun f hf => hk f (by simp [hf])
      · exact fun f hf => hp f (by simp [hf])

/-- **A structure is carried through TOML if restoring its fields makes it from the blank
one.** -/
theorem Proper.carries {r : Record α} (h : r.Proper) {depth : Nat} {a : α}
    (hr : Restored depth a (r.readOrder a) r.blank a) : r.codec.Carries (depth + 1) a := by
  refine ⟨entriesPlain_map h.keys h.distinct fun field hf =>
    hr.plain field (mem_readOrder.mpr hf), ?_⟩
  -- the table comes back in another order, which its entries do not depend on
  show r.codec.decode .toml (Document.table (r.entries a)).reread = .ok a
  rw [reread_entries]
  show r.readTable .toml _ = .ok a
  rw [readTable, foldlM_readEntry h (fun field hf => mem_readOrder.mp hf) hr]
  simp [h.partly, bind, Except.bind]

end Record

/-! ## §4. What reading keeps. -/

/-- Whatever is read for the field from a text of 64-bit numbers keeps the property. -/
def Field.Keeps (field : Field α) (P : α → Prop) : Prop :=
  ∀ document a b, document.Within → P a → field.read .toml document a = .ok b → P b

theorem Field.keeps_of {name : String} {codec : Codec β} {get : α → β} {set : β → α → α}
    {P : α → Prop} {Q : β → Prop}
    (hQ : ∀ {document x}, document.Within → codec.decode .toml document = .ok x → Q x)
    (h : ∀ {a x}, P a → Q x → P (set x a)) : (Field.of name codec get set).Keeps P := by
  intro document a b hd ha heq
  have heq : (codec.decode .toml document).map (fun x => set x a) = .ok b := heq
  cases hx : codec.decode .toml document with
  | error cause =>
      rw [hx] at heq
      cases heq
  | ok x =>
      rw [hx] at heq
      cases heq
      exact h ha (hQ hd hx)

/-- Fields that a property does not mention keep it. -/
theorem Field.keeps_other {name : String} {codec : Codec β} {get : α → β}
    {set : β → α → α} {P : α → Prop} (h : ∀ {a x}, P a → P (set x a)) :
    (Field.of name codec get set).Keeps P :=
  keeps_of (fun _ _ => trivial) fun ha (_ : True) => h ha

namespace Record

theorem readEntry_keeps {r : Record α} {P : α → Prop} (hf : ∀ field ∈ r.fields, field.Keeps P)
    {entry : String × Document} {a b : α} (hd : entry.2.Within) (ha : P a)
    (heq : r.readEntry .toml a entry = .ok b) : P b := by
  unfold readEntry at heq
  split at heq
  · rename_i field hfind
    exact hf field (List.mem_of_find?_eq_some hfind) _ _ _ hd ha heq
  · cases heq
    exact ha

theorem foldlM_keeps {r : Record α} {P : α → Prop} (hf : ∀ field ∈ r.fields, field.Keeps P)
    {entries : List (String × Document)} {a b : α} (hd : ∀ entry ∈ entries, entry.2.Within)
    (ha : P a) (heq : entries.foldlM (r.readEntry .toml) a = .ok b) : P b := by
  induction entries generalizing a with
  | nil =>
      cases heq
      exact ha
  | cons entry entries ih =>
      rw [List.foldlM_cons] at heq
      obtain ⟨x, hx, heq⟩ := Except.bind_eq_ok.mp heq
      exact ih (fun e he => hd e (by simp [he]))
        (readEntry_keeps hf (hd entry (by simp)) ha hx) heq

theorem readItems_keeps {P : α → Prop} {fields : List (Field α)} {items : List Document}
    (hf : ∀ field ∈ fields, field.Keeps P) (hd : ∀ item ∈ items, item.Within) {a b : α}
    (ha : P a) (heq : readItems .toml a fields items = .ok b) : P b := by
  induction fields generalizing items a with
  | nil =>
      cases heq
      exact ha
  | cons field fields ih =>
      cases items with
      | nil =>
          cases heq
          exact ha
      | cons item items =>
          rw [readItems, Except.bind_eq_ok] at heq
          obtain ⟨x, hx, heq⟩ := heq
          exact ih (fun f hf' => hf f (by simp [hf'])) (fun i hi => hd i (by simp [hi]))
            (hf field (by simp) _ _ _ (hd item (by simp)) ha hx) heq

/-- **What every field keeps, and the blank structure has, is true of all structures that
are read**, from a table or from a list. -/
theorem decode_keeps {r : Record α} {P : α → Prop} (hb : P r.blank)
    (hf : ∀ field ∈ r.fields, field.Keeps P) {document : Document} (hd : document.Within)
    {a : α} (heq : r.codec.decode .toml document = .ok a) : P a := by
  -- from the blank structure on, whichever form the document gives the fields in
  have htable : ∀ {entries : List (String × Document)}, (∀ entry ∈ entries, entry.2.Within) →
      r.readTable .toml entries = .ok a → P a := by
    intro entries hd heq
    obtain ⟨x, hx, heq⟩ := Except.bind_eq_ok.mp heq
    have hP : P x := foldlM_keeps hf hd hb hx
    split at heq
    · split at heq <;> cases heq
      exact hP
    · cases heq
      exact hP
  have hlist : ∀ {items : List Document}, (∀ item ∈ items, item.Within) →
      r.readList .toml items = .ok a → P a := by
    intro items hd heq
    obtain ⟨x, hx, heq⟩ := Except.bind_eq_ok.mp heq
    have hP : P x := readItems_keeps hf hd hb hx
    split at heq
    · cases heq
    · split at heq <;> cases heq
      exact hP
  -- a date has no entries, and every other kind of document is refused
  cases hd with
  | table h => exact htable h heq
  | list h => exact hlist h heq
  | rows h => exact hlist h heq
  | timestamp => exact htable (by simp) heq
  | _ => cases heq

end Record

end Structures

end Horizon
