/-
  Horizon.Proofs.Document.Survival
  ────────────────────────────────
  **VALUES SURVIVE JSON TEXT.**

  A value survives if the text that its codec writes is read as a document from which the
  codec reads the value again.  Whole numbers survive over their whole range, texts as
  they are, and floating-point numbers as far as their digits do.  A structure survives if
  its fields do and each restores its part of the structure:

      blank  ⟶  first field restored  ⟶  …  ⟶  all fields restored  =  the value

  and then it is read back from its table as well as from the list of its fields.
-/
import Horizon.Proofs.Document.Order
import Horizon.Proofs.Json.Reading
import Horizon.Proofs.ResultCode.Packing

namespace Horizon

open Json (ReadAs)

/-! ## §1. There and back. -/

section

variable {α : Type}

/-- A value as JSON text. -/
def Codec.toJson (codec : Codec α) (a : α) : String := Json.compact (codec.encode a)

/-- The value that a JSON text describes, if it describes one. -/
def Codec.ofJson? (codec : Codec α) (text : String) : Option α :=
  (Json.parse text).bind fun document => (codec.decode .json document).toOption

/-- The list of the fields of a structure as JSON text. -/
def Record.toJsonList (r : Record α) (a : α) : String :=
  Json.compact (.list (r.fields.map fun field => field.write a))

/-- What is written for the value is read as something that the value is read from. -/
def Codec.Survives (codec : Codec α) (a : α) : Prop :=
  ∃ read, ReadAs (codec.encode a) read ∧ codec.decode .json read = .ok a

/-- The structure is read back from both of the forms that it may be given in. -/
structure Record.RoundTrips (r : Record α) (a : α) : Prop where
  table : r.codec.ofJson? (r.codec.toJson a) = some a
  list : r.codec.ofJson? (r.toJsonList a) = some a

theorem Codec.ofJson?_of_readAs {codec : Codec α} {a : α} {document read : Document}
    (text : ReadAs document read) (value : codec.decode .json read = .ok a) :
    codec.ofJson? (Json.compact document) = some a := by
  unfold ofJson?
  rw [text.parse, Option.bind_some, value]
  rfl

/-- **A value that survives is read back from its text.** -/
theorem Codec.Survives.ofJson? {codec : Codec α} {a : α} (h : codec.Survives a) :
    codec.ofJson? (codec.toJson a) = some a := by
  obtain ⟨read, text, value⟩ := h
  exact ofJson?_of_readAs text value

end

/-! ## §2. Scalars. -/

namespace Codec

theorem survives_boolean (value : Bool) : boolean.Survives value :=
  ⟨_, Json.readAs_boolean value, rfl⟩

/-- Whole numbers that are not negative and fit 64 bits survive wherever their type has
room for them. -/
theorem readAs_natural {n : Nat} (small : n < 2 ^ 64) : ReadAs (.integer n) (.integer n) :=
  Json.readAs_integer (by omega) (by omega)

theorem survives_byte (value : UInt8) : byte.Survives value := by
  have small := value.toNat_lt
  exact ⟨_, readAs_natural (by omega), decode_byte .json value⟩

theorem survives_word (value : UInt32) : word.Survives value := by
  have small := value.toNat_lt
  exact ⟨_, readAs_natural (by omega), decode_word .json value⟩

theorem survives_doubleWord (value : UInt64) : doubleWord.Survives value :=
  ⟨_, readAs_natural value.toNat_lt, decode_doubleWord .json value⟩

theorem survives_resultCode (code : ResultCode) : resultCode.Survives code := by
  obtain ⟨above, below⟩ := code.toInt_bounds
  have within : integerWithin "i32" (-0x8000_0000) 0x8000_0000 .json (.integer code.toInt)
      = .ok code.toInt := integerWithin_of_mem .json above below
  refine ⟨_, Json.readAs_integer (by omega) (by omega), ?_⟩
  simp only [resultCode, within, Except.map, ResultCode.ofInt_toInt]

theorem survives_version {value : SystemVersion} (h : value.LowByteClear) :
    version.Survives value :=
  ⟨_, Json.readAs_text value.text, decode_version .json h⟩

theorem survives_duration (value : Duration) : duration.Survives value :=
  ⟨_, Json.readAs_text value.text, decode_duration .json value⟩

theorem isNumber_of_decode_single {document : Document} {value : Binary.Single}
    (h : single.decode .json document = .ok value) : Json.IsNumber document := by
  cases document with
  | integer => trivial
  | double => trivial
  | single => trivial
  | _ => cases h

/-- **A floating-point number survives anywhere if it survives on its own.** -/
theorem survives_single {value : Binary.Single}
    (h : single.ofJson? (single.toJson value) = some value) : single.Survives value := by
  unfold Codec.ofJson? at h
  obtain ⟨read, parsed, decoded⟩ := Option.bind_eq_some_iff.mp h
  have ok : single.decode .json read = .ok value := by
    cases outcome : single.decode .json read with
    | error cause =>
        rw [outcome] at decoded
        cases decoded
    | ok x =>
        rw [outcome] at decoded
        exact congrArg Except.ok (Option.some.inj decoded)
  exact ⟨read, Json.readAs_of_parse parsed (isNumber_of_decode_single ok), ok⟩

end Codec

/-! ## §3. Variants. -/

namespace Codec

variable {α : Type}

/-- A value of an enumeration survives if its name is found for it. -/
theorem survives_enumeration {cases : List (String × α)} {name : α → String} {value : α}
    {key : String} (found : cases.find? (·.1 == name value) = some (key, value)) :
    (enumeration cases name).Survives value := by
  refine ⟨_, Json.readAs_text (name value), ?_⟩
  simp only [enumeration, variantOf, bind, Except.bind, found, noContent]

variable {cases : List (String × α)} {other : UInt8 → α} {name : α → Except UInt8 String}
  {value : α}

/-- A named value of an open enumeration survives as its name. -/
theorem survives_named {text key : String} (named : name value = .ok text)
    (found : cases.find? (·.1 == text) = some (key, value)) :
    (openEnumeration cases other name).Survives value := by
  have written : (openEnumeration cases other name).encode value = .text text := by
    simp only [openEnumeration, named]
  refine ⟨.text text, ?_, ?_⟩
  · rw [written]
    exact Json.readAs_text text
  · simp only [openEnumeration, variantOf, bind, Except.bind, found, noContent]

/-- Any other value survives with its byte, as long as no case is called `other`. -/
theorem survives_other {bits : UInt8} (unnamed : name (other bits) = .error bits)
    (free : cases.find? (·.1 == "other") = none) :
    (openEnumeration cases other name).Survives (other bits) := by
  obtain ⟨read, text, decoded⟩ := survives_byte bits
  have written : (openEnumeration cases other name).encode (other bits)
      = .table [("other", byte.encode bits)] := by
    simp only [openEnumeration, unnamed]
  have table : ReadAs (.table [("other", byte.encode bits)]) (.table [("other", read)]) :=
    @Json.readAs_table _ [("other", read)] (.cons ⟨rfl, text⟩ .nil)
  refine ⟨.table [("other", read)], ?_, ?_⟩
  · rw [written]
    exact table
  · simp only [openEnumeration, variantOf, bind, Except.bind, free, decoded, if_true]
    rfl

end Codec

/-! ## §4. Structures. -/

section

variable {α β : Type}

/-- What is written for a field of `a` is read as something that restores the field in any
structure. -/
def Field.Survives (field : Field α) (a : α) (restore : α → α) : Prop :=
  ∃ read, ReadAs (field.write a) read ∧ ∀ b, field.read .json read b = .ok (restore b)

theorem Field.survives_of {name : String} {codec : Codec β} {get : α → β} {set : β → α → α}
    {a : α} (h : codec.Survives (get a)) :
    (Field.of name codec get set).Survives a (set (get a)) := by
  obtain ⟨read, text, value⟩ := h
  refine ⟨read, text, fun b => ?_⟩
  show (codec.decode .json read).map _ = _
  rw [value]
  rfl

/-- Restoring the fields of `a` one after another takes one structure to another. -/
inductive Rebuilt (a : α) : List (Field α) → α → α → Prop where
  | nil {b} : Rebuilt a [] b b
  | cons {field fields restore b c} (survives : field.Survives a restore)
      (more : Rebuilt a fields (restore b) c) : Rebuilt a (field :: fields) b c

/-- The contents of the fields are read as items that the structure is read from. -/
theorem Rebuilt.exists_items {a b c : α} {fields : List (Field α)} (h : Rebuilt a fields b c) :
    ∃ items, List.Forall₂ (fun field item => ReadAs (field.write a) item) fields items
      ∧ Record.readItems .json b fields items = .ok c := by
  induction h with
  | nil => exact ⟨[], .nil, rfl⟩
  | cons survives _ ih =>
      -- what is read for the first field restores it in the blank structure as in any other
      obtain ⟨read, text, restores⟩ := survives
      obtain ⟨items, texts, rebuilt⟩ := ih
      refine ⟨read :: items, .cons text texts, ?_⟩
      rw [Record.readItems, restores]
      exact rebuilt

namespace Record

variable {r : Record α} {a : α}

/-- **A structure whose fields can be rebuilt survives**, and its list of fields is read
back as well. -/
theorem Independent.survives (h : r.Independent) (rebuilt : Rebuilt a r.fields r.blank a) :
    r.codec.Survives a ∧ r.RoundTrips a := by
  obtain ⟨items, texts, read⟩ := rebuilt.exists_items
  have length : items.length = r.fields.length := texts.length_eq.symm
  -- as entries, the items carry the names of their fields
  have entries (fields : List (Field α)) (items : List Document)
      (texts : List.Forall₂ (fun field item => ReadAs (field.write a) item) fields items) :
      List.Forall₂ Json.EntryReadAs (fields.map fun field => (field.name, field.write a))
        ((fields.map (·.name)).zip items) := by
    induction texts with
    | nil => exact .nil
    | cons text _ ih => exact .cons ⟨rfl, text⟩ ih
  have names : (((r.fields.map (·.name)).zip items).map (·.1)).Nodup := by
    rw [List.map_fst_zip (by rw [List.length_map, length])]
    exact h.distinct
  have table : r.codec.Survives a :=
    ⟨_, Json.readAs_table (entries _ _ texts),
      h.decode_table length read (Json.ordered_perm names).symm⟩
  refine ⟨table, table.ofJson?, ?_⟩
  refine Codec.ofJson?_of_readAs (Json.readAs_list ?_) (decode_list length read)
  exact List.forall₂_map_left_iff.mpr texts

end Record

end

end Horizon
