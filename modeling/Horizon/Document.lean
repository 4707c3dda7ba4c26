/-
  Horizon.Document
  ────────────────
  **DOCUMENTS OF NESTED TABLES AND LISTS.**

  Settings and reports are exchanged as documents, in one of two notations.  Tables keep
  their entries in the order in which the notation presents them.
-/
import Horizon.Binary.Format

namespace Horizon

open Binary (Single Double)

/-- A document. -/
inductive Document where
  /-- The absent value. -/
  | null
  | boolean (value : Bool)
  | integer (value : Int)
  /-- A number of the 64-bit floating-point format. -/
  | double (value : Double)
  /-- A number of the 32-bit floating-point format. -/
  | single (value : Single)
  | text (value : String)
  /-- A date, a time of day or both, as written. -/
  | timestamp (value : String)
  | list (items : List Document)
  /-- A list of tables that were opened one after another under the same header. -/
  | rows (tables : List Document)
  | table (entries : List (String × Document))
  deriving Repr, Inhabited

/-- The notations. -/
inductive Dialect where
  | json
  | toml
  deriving Repr, DecidableEq

namespace Document

/-- The whole number `n` as a document. -/
def ofNat (n : Nat) : Document := .integer n

/-- The entry of a table. -/
def entry? (name : String) : Document → Option Document
  | .table entries => (entries.find? (·.1 == name)).map (·.2)
  | _ => none

end Document

end Horizon
