/-
  Horizon.Host
  ────────────
  **WHAT THE PROBE NEEDS OF THE MACHINE IT RUNS ON.**
-/
import Horizon.Settings

namespace Horizon

/-- A machine, with the effects of `m`. -/
structure Host (m : Type → Type) where
  /-- The value of an environment variable. -/
  setting : String → m (Option String)
  /-- There is a file or directory of that name. -/
  present : String → m Bool
  /-- The contents of a file. -/
  contents : String → m (Except ReadFault ByteArray)
  /-- Write to the standard output. -/
  print : String → m Unit
  /-- Write a line of the log. -/
  note : String → m Unit

end Horizon
