/-
  Horizon.Usage
  ─────────────
  **ACCOUNTING OF THE MEMORY REGIONS.**

  Sizes are read off the configuration memory; the bytes in use take a query.
-/
import Horizon.Registers
import Horizon.Supervisor

namespace Horizon

open Binary (Double)

/-- Size and use of one region at some moment. -/
structure MemoryUsage where
  /-- The region. -/
  region : MemRegion
  /-- Its size in bytes. -/
  size : UInt32
  /-- Bytes in use. -/
  used : UInt32
  /-- Bytes free: size less use, in word arithmetic. -/
  free : UInt32
  deriving Repr, DecidableEq, Inhabited

/-- The fraction in use; none of an empty region is. -/
def MemoryUsage.utilization (usage : MemoryUsage) : Double :=
  if usage.size = 0 then .ofNat 0 else .ofQuotient usage.used.toNat usage.size.toNat

variable {m : Type → Type} [Monad m]

/-- The bytes free in a region. -/
def regionFree (bus : Bus) (supervisor : Supervisor m) (region : MemRegion) : m UInt32 := do
  let used ← supervisor.regionUsed region
  pure (bus.regionSize region - used)

/-- Size and use of a region, by a single query. -/
def regionUsage (bus : Bus) (supervisor : Supervisor m) (region : MemRegion) :
    m MemoryUsage := do
  let used ← supervisor.regionUsed region
  let size := bus.regionSize region
  pure ⟨region, size, used, size - used⟩

end Horizon
