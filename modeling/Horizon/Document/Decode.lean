/-
  Horizon.Document.Decode
  ───────────────────────
  **FROM DOCUMENTS TO VALUES AND BACK.**

  A `Codec` reads a value from a document and writes it.  The codec of a structure is
  its list of fields: reading a table starts from a blank value and lets every entry,
  in order, override the field of its name, so that the first offending entry is the
  one reported and entries of other names have no effect.  A structure may also be given
  as the list of its fields in order.
-/
import Horizon.Binary.Decimal
import Horizon.Document
import Horizon.Duration.Text
import Horizon.ResultCode
import Horizon.Version

namespace Horizon

open Binary (Single Double)
open Text

/-! ## §1. Errors. -/

/-- What a document was found to be. -/
inductive Found where
  | null
  | boolean (value : Bool)
  | integer (value : Int)
  /-- A floating-point number, as written in messages. -/
  | number (digits : String)
  | text (value : String)
  | sequence
  | map
  /-- A bare variant name. -/
  | unitVariant
  deriving Repr, DecidableEq

/-- What was found, in words. -/
def Found.message : Found → String
  | .null => "null"
  | .boolean value => s!"boolean `{value}`"
  | .integer value => s!"integer `{value}`"
  | .number digits => s!"floating point `{digits}`"
  | .text value => s!"string {quote value}"
  | .sequence => "sequence"
  | .map => "map"
  | .unitVariant => "unit variant"

/-- How messages about JSON write floating-point numbers. -/
def Binary.Style.json : Binary.Style := ⟨some (-5, 15), true, "NaN", "inf", .toEven⟩

/-- How messages of a notation write floating-point numbers. -/
def Dialect.numberStyle : Dialect → Binary.Style
  | .json => .json
  | .toml => .pointed

/-- What a document is, for messages. -/
def Document.found (d : Dialect) : Document → Found
  | .null => .null
  | .boolean value => .boolean value
  | .integer value => .integer value
  | .double value => .number (d.numberStyle.text .double value.datum)
  | .single value => .number (d.numberStyle.text .double value.toDouble.datum)
  | .text value => .text value
  | .timestamp _ => .map
  | .list _ => .sequence
  | .rows _ => .sequence
  | .table _ => .map

/-- Why a document does not fit a type. -/
inductive DecodeError where
  /-- The document is of another kind. -/
  | wrongType (found : Found) (expected : String)
  /-- The document is of the right kind and has a wrong value. -/
  | wrongValue (found : Found) (expected : String)
  /-- A list has another length. -/
  | wrongLength (length : Nat) (expected : String)
  /-- A variant name is unknown. -/
  | unknownVariant (name : String) (known : List String)
  /-- A table lacks an entry. -/
  | missingField (name : String)
  /-- A text is no version. -/
  | version (cause : SystemVersion.ParseError)
  /-- A text is no duration. -/
  | duration (cause : Duration.ParseError)
  /-- A variant is neither a name nor a table. -/
  | variantExpected
  /-- The table of a variant has another number of entries than one. -/
  | singleEntryExpected (several : Bool)
  /-- A variant without content was given some. -/
  | emptyTableExpected
  /-- A variant without content was given rows of tables. -/
  | emptyRowsExpected
  /-- A variant without content was given a scalar. -/
  | tableExpected (found : String)
  deriving Repr, DecidableEq

/-- The names that would have been right, in words. -/
def expectedNames : List String → String
  | [] => "there are no variants"
  | [only] => s!"expected `{only}`"
  | [first, second] => s!"expected `{first}` or `{second}`"
  | names => "expected one of " ++ ", ".intercalate (names.map fun name => s!"`{name}`")

/-- The error in words. -/
def DecodeError.message : DecodeError → String
  | .wrongType found expected => s!"invalid type: {found.message}, expected {expected}"
  | .wrongValue found expected => s!"invalid value: {found.message}, expected {expected}"
  | .wrongLength length expected => s!"invalid length {length}, expected {expected}"
  | .unknownVariant name known => s!"unknown variant `{name}`, {expectedNames known}"
  | .missingField name => s!"missing field `{name}`"
  | .version cause => cause.message
  | .duration cause => cause.message
  | .variantExpected => "wanted string or table"
  | .singleEntryExpected several =>
    if several then "wanted exactly 1 element, more than 1 element"
    else "wanted exactly 1 element, found 0 elements"
  | .emptyTableExpected => "expected empty table"
  | .emptyRowsExpected => "expected empty array"
  | .tableExpected found => s!"expected table, found {found}"

/-! ## §2. Scalars. -/

/-- How values of a type are read from and written to documents. -/
structure Codec (α : Type) where
  /-- Read a value. -/
  decode : Dialect → Document → Except DecodeError α
  /-- Write a value. -/
  encode : α → Document

namespace Codec

/-- Truth values. -/
def boolean : Codec Bool where
  decode d
    | .boolean value => .ok value
    | other => .error (.wrongType (other.found d) "a boolean")
  encode := .boolean

/-- Texts. -/
def text : Codec String where
  decode d
    | .text value => .ok value
    | other => .error (.wrongType (other.found d) "a string")
  encode := .text

/-- Whole numbers from `least` up to but not including `bound`. -/
def integerWithin (name : String) (least bound : Int) (d : Dialect) :
    Document → Except DecodeError Int
  | .integer value =>
    if least ≤ value ∧ value < bound then .ok value
    else .error (.wrongValue (.integer value) name)
  | other => .error (.wrongType (other.found d) name)

/-- Bytes. -/
def byte : Codec UInt8 where
  decode d doc := (integerWithin "u8" 0 0x100 d doc).map fun i => UInt8.ofNat i.toNat
  encode value := .integer value.toNat

/-- Words. -/
def word : Codec UInt32 where
  decode d doc := (integerWithin "u32" 0 0x1_0000_0000 d doc).map fun i => UInt32.ofNat i.toNat
  encode value := .integer value.toNat

/-- 64-bit values. -/
def doubleWord : Codec UInt64 where
  decode d doc :=
    (integerWithin "u64" 0 0x1_0000_0000_0000_0000 d doc).map fun i => UInt64.ofNat i.toNat
  encode value := .integer value.toNat

/-- Result codes, as signed numbers. -/
def resultCode : Codec ResultCode where
  decode d doc := (integerWithin "i32" (-0x8000_0000) 0x8000_0000 d doc).map .ofInt
  encode code := .integer code.toInt

/-- Floating-point numbers; whole numbers are taken as well. -/
def single : Codec Single where
  decode d
    | .single value => .ok value
    | .double value => .ok value.toSingle
    | .integer value => .ok (.ofInt value)
    | other => .error (.wrongType (other.found d) "f32")
  encode := .single

/-- Versions, as texts. -/
def version : Codec SystemVersion where
  decode d doc := do
    match SystemVersion.parse (← text.decode d doc) with
    | .ok v => .ok v
    | .error cause => .error (.version cause)
  encode v := .text v.text

/-- Durations, as texts. -/
def duration : Codec Duration where
  decode d doc := do
    match Duration.parse (← text.decode d doc) with
    | .ok length => .ok length
    | .error cause => .error (.duration cause)
  encode length := .text length.text

end Codec

/-! ## §3. Variants. -/

/-- The name of a variant, and its content if it has some. -/
def variantOf (d : Dialect) : Document → Except DecodeError (String × Option Document)
  | .text name => .ok (name, none)
  | .table [(name, content)] => .ok (name, some content)
  | .table entries =>
    match d with
    | .json => .error (.wrongValue .map "map with a single key")
    | .toml => .error (.singleEntryExpected !entries.isEmpty)
  | other =>
    match d with
    | .json => .error (.wrongType (other.found d) "string or map")
    | .toml => .error .variantExpected

/-- The content of a variant that has none: absent or, in JSON, null, in TOML an empty
list or table. -/
def noContent (d : Dialect) : Option Document → Except DecodeError Unit
  | none => .ok ()
  | some content =>
    match d, content with
    | .json, .null => .ok ()
    | .json, other => .error (.wrongType (other.found d) "unit")
    | .toml, .list [] => .ok ()
    | .toml, .table [] => .ok ()
    | .toml, .list _ => .error .emptyTableExpected
    | .toml, .rows _ => .error .emptyRowsExpected
    | .toml, .table _ => .error .emptyTableExpected
    | .toml, .boolean _ => .error (.tableExpected "boolean")
    | .toml, .integer _ => .error (.tableExpected "integer")
    | .toml, .text _ => .error (.tableExpected "string")
    | .toml, .timestamp _ => .error (.tableExpected "datetime")
    | .toml, .double _ => .error (.tableExpected "float")
    | .toml, .single _ => .error (.tableExpected "float")
    | .toml, .null => .error (.tableExpected "none")

namespace Codec

/-- An enumeration: each value has a name. -/
def enumeration {α : Type} (cases : List (String × α)) (name : α → String) : Codec α where
  decode d doc := do
    let (given, content) ← variantOf d doc
    match cases.find? (·.1 == given) with
    | none => .error (.unknownVariant given (cases.map (·.1)))
    | some (_, value) =>
      noContent d content
      .ok value
  encode value := .text (name value)

/-- An enumeration with one more variant, `other`, that holds a byte. -/
def openEnumeration {α : Type} (cases : List (String × α)) (other : UInt8 → α)
    (name : α → Except UInt8 String) : Codec α where
  decode d doc := do
    let (given, content) ← variantOf d doc
    match cases.find? (·.1 == given) with
    | some (_, value) =>
      noContent d content
      .ok value
    | none =>
      if given = "other" then
        match content with
        | none => .error (.wrongType .unitVariant "newtype variant")
        | some bits => return other (← byte.decode d bits)
      else .error (.unknownVariant given (cases.map (·.1) ++ ["other"]))
  encode value :=
    match name value with
    | .ok text => .text text
    | .error bits => .table [("other", byte.encode bits)]

end Codec

/-! ## §4. Structures. -/

/-- One field of a structure. -/
structure Field (α : Type) where
  /-- Its name in tables. -/
  name : String
  /-- Read the field into a structure. -/
  read : Dialect → Document → α → Except DecodeError α
  /-- Write the field of a structure. -/
  write : α → Document

/-- The field of that name, with a codec for its content. -/
def Field.of {α β : Type} (name : String) (codec : Codec β) (get : α → β) (set : β → α → α) :
    Field α where
  name
  read d doc a := (codec.decode d doc).map fun b => set b a
  write a := codec.encode (get a)

/-- A structure as a table. -/
structure Record (α : Type) where
  /-- Its name in messages. -/
  name : String
  /-- Its fields, in order. -/
  fields : List (Field α)
  /-- The value before any field is read. -/
  blank : α
  /-- Every field must be given. -/
  complete : Bool

namespace Record

variable {α : Type}

/-- Let one entry of a table override the field of its name. -/
def readEntry (r : Record α) (d : Dialect) (value : α) (entry : String × Document) :
    Except DecodeError α :=
  match r.fields.find? (·.name == entry.1) with
  | some field => field.read d entry.2 value
  | none => .ok value

/-- Read a table. -/
def readTable (r : Record α) (d : Dialect) (entries : List (String × Document)) :
    Except DecodeError α := do
  let value ← entries.foldlM (r.readEntry d) r.blank
  if r.complete then
    match r.fields.find? fun field => !entries.any (·.1 == field.name) with
    | some field => .error (.missingField field.name)
    | none => .ok value
  else .ok value

/-- Read fields from as many items of a list as there are, in order. -/
def readItems (d : Dialect) (value : α) :
    List (Field α) → List Document → Except DecodeError α
  | field :: fields, item :: items => do
    readItems d (← field.read d item value) fields items
  | _, _ => .ok value

/-- Read a list of the fields in order. -/
def readList (r : Record α) (d : Dialect) (items : List Document) : Except DecodeError α := do
  let value ← readItems d r.blank r.fields items
  if r.complete ∧ items.length < r.fields.length then
    .error (.wrongLength items.length s!"struct {r.name} with {r.fields.length} elements")
  else if d = .json ∧ r.fields.length < items.length then
    .error (.wrongLength items.length "fewer elements in array")
  else .ok value

/-- The structure's codec.  A date counts as a table without an entry of any field. -/
def codec (r : Record α) : Codec α where
  decode d
    | .table entries => r.readTable d entries
    | .list items => r.readList d items
    | .rows tables => r.readList d tables
    | .timestamp _ => r.readTable d []
    | other => .error (.wrongType (other.found d) s!"struct {r.name}")
  encode value := .table (r.fields.map fun field => (field.name, field.write value))

end Record

end Horizon
