/-
  Horizon.Supervisor
  ──────────────────
  **PRIVILEGED QUERIES OF THE KERNEL.**

  A supervisor answers two questions, and may answer differently every time: its answers
  come from whatever effects `m` has.
-/
import Horizon.Fault
import Horizon.Region

namespace Horizon

/-- The queries that need the kernel. -/
structure Supervisor (m : Type → Type) where
  /-- The tick counter. -/
  ticks : m UInt64
  /-- A value of kernel state, selected by kind and parameter. -/
  systemInfo : (kind : UInt32) → (param : Int32) → m (Except ResultCode Int64)

namespace Supervisor

/-- The kind of query for the bytes in use in a memory region. -/
def memoryUsed : UInt32 := 0

/-- The kind of query for the number of processes that the kernel launched itself. -/
def processCount : UInt32 := 26

variable {m : Type → Type} [Monad m]

/-- The answer to a query for bytes in use, as a word. -/
def usedAnswer : Except ResultCode Int64 → Except Fault UInt32
  | .error code => .error (.service "svcGetSystemInfo" code)
  | .ok answer =>
    if 0 ≤ answer.toInt && answer.toInt < 0x1_0000_0000 then .ok (UInt32.ofNat answer.toInt.toNat)
    else .error (.outOfRange "memory used" (answer.toInt % 0x1_0000_0000_0000_0000).toNat)

/-- The bytes in use in a memory region, or why they are not known. -/
def tryRegionUsed (supervisor : Supervisor m) (region : MemRegion) :
    m (Except Fault UInt32) := do
  let answer ← supervisor.systemInfo memoryUsed region.raw.toInt32
  pure (usedAnswer answer)

/-- The bytes in use in a memory region; what is not known counts as none. -/
def regionUsed (supervisor : Supervisor m) (region : MemRegion) : m UInt32 := do
  match ← supervisor.tryRegionUsed region with
  | .ok used => pure used
  | .error _ => pure 0

end Supervisor

end Horizon
