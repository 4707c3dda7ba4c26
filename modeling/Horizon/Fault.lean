/-
  Horizon.Fault
  ─────────────
  **WHAT CAN GO WRONG ON THE PLATFORM.**
-/
import Horizon.ResultCode

namespace Horizon

/-- A failure of configuration, of a service call or of an address look-up. -/
inductive Fault where
  /-- A setting makes no sense. -/
  | config (reason : String)
  /-- A supervisor or service call failed. -/
  | service (call : String) (code : ResultCode)
  /-- A value lies outside its documented range. -/
  | outOfRange (what : String) (value : Nat)
  /-- No physical memory is known behind an address. -/
  | unmapped (address : UInt32)
  deriving Repr, DecidableEq

/-- The failure in words. -/
def Fault.message : Fault → String
  | .config reason => s!"configuration error: {reason}"
  | .service call code => s!"{call} failed with result {code.text}"
  | .outOfRange what value => s!"{what} out of range: {value}"
  | .unmapped address => s!"unmapped address {Text.hexWord address}"

end Horizon
