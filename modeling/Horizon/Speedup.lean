/-
  Horizon.Speedup
  ───────────────
  **SWITCHING THE PROCESSOR OF THE NEW MODEL.**
-/
import Horizon.Console

namespace Horizon

namespace Speedup

/-- Run the processor at 804 MHz. -/
def highClock : UInt8 := 1
/-- Use the second-level cache. -/
def l2Cache : UInt8 := 2

/-- The flags for the fast or the usual state. -/
def flags (enable : Bool) : UInt8 :=
  if enable then highClock ||| l2Cache else 0

/-- The fast state has both flags, the usual one none. -/
theorem flags_eq (enable : Bool) : flags enable = if enable then 3 else 0 := by
  cases enable <;> rfl

/-- The number of the PTM module in result codes. -/
def ptmModule : UInt8 := 0x1C

/-- The failure on a model whose processor cannot be switched. -/
def notSupported : ResultCode :=
  .pack .permanent .notSupported ptmModule Description.notImplemented

end Speedup

namespace Console

/-- Apply processor flags: the console with them in force, or the code of the failure. -/
def configureCpu (console : Console) (flags : UInt8) : Except ResultCode Console :=
  if console.model.supportsSpeedup then .ok { console with cpuFlags := flags }
  else .error Speedup.notSupported

/-- Ask for the fast or the usual state. -/
def trySetSpeedup (console : Console) (enable : Bool) : Except Fault Console :=
  match console.configureCpu (Speedup.flags enable) with
  | .ok console => .ok console
  | .error code => .error (.service "PTMSYSM_ConfigureNew3DSCPU" code)

/-- Ask for the fast or the usual state; a console that cannot stays as it is. -/
def setSpeedup (console : Console) (enable : Bool) : Console :=
  match console.trySetSpeedup enable with
  | .ok console => console
  | .error _ => console

end Console

end Horizon
