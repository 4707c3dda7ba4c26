/-
  Horizon.Console
  ───────────────
  **A SIMULATED CONSOLE.**

  The console answers the supervisor's queries from its settings, keeps a tick counter
  that moves only when told to, and has a processor clock that the New model can switch.
  Queries can be made to fail.
-/
import Horizon.Config
import Horizon.DateTime
import Horizon.Supervisor

namespace Horizon

open Registers

/-! ## §1. The register pages. -/

namespace Image

/-- Write the sizes of the memory regions. -/
def writeRegionSizes (image : Image) (sizes : RegionBytes) : Image :=
  ((image.writeWord regionSizesAt sizes.application).writeWord
    (regionSizesAt + 4) sizes.system).writeWord (regionSizesAt + 8) sizes.base

/-- The register pages of a console with the given settings. -/
def ofConfig (c : SimulationConfig) : Image :=
  let versions :=
    (Image.empty.writeWord kernelVersionAt c.kernelVersion.raw).writeWord
      firmVersionAt c.firmVersion.raw
  let kinds := (versions.writeWord coreVersionAt c.coreVersion).writeWord appMemTypeAt c.appMemType
  let sizes := kinds.writeRegionSizes c.regionSizes
  let shared :=
    (sizes.writeByte wifiStrengthAt c.wifiStrength).writeSingle sliderAt c.slider3d
  shared.publish ⟨c.dateTimeMs, c.startTick⟩

end Image

/-! ## §2. The console. -/

/-- The state of a simulated console. -/
structure Console where
  /-- The tick counter. -/
  clock : UInt64
  /-- The hardware model. -/
  model : ConsoleModel
  /-- Bytes in use in the memory regions. -/
  used : RegionBytes
  /-- The code that every query fails with, if one was set. -/
  failure : Option ResultCode
  /-- The processor flags that were applied last. -/
  cpuFlags : UInt8
  deriving Repr, DecidableEq, Inhabited

namespace Console

/-- A console of the Old model with the given settings. -/
def ofConfig (c : SimulationConfig) : Console where
  clock := c.startTick
  model := .old
  used := c.regionUsed
  failure := none
  cpuFlags := 0

/-- The same console of another model. -/
def withModel (console : Console) (model : ConsoleModel) : Console :=
  { console with model }

/-- Move the tick counter on, modulo 2^64. -/
def advance (console : Console) (ticks : UInt64) : Console :=
  { console with clock := console.clock + ticks }

/-- Set the tick counter. -/
def setClock (console : Console) (ticks : UInt64) : Console :=
  { console with clock := ticks }

/-- Let every query fail from now on. -/
def failSystemInfo (console : Console) (code : ResultCode) : Console :=
  { console with failure := some code }

/-- Let queries succeed again. -/
def clearFailure (console : Console) : Console :=
  { console with failure := none }

/-! ## §3. Queries. -/

/-- The number of the kernel in result codes. -/
def kernelModule : UInt8 := 1

/-- The failure of a query that the kernel does not know. -/
def unknownQuery : ResultCode :=
  .pack .permanent .invalidArg kernelModule Description.invalidEnumValue

/-- The region that a signed query parameter selects. -/
def queriedRegion? (param : Int32) : Option MemRegion :=
  if 0 ≤ param.toInt then MemRegion.ofRaw? param.toUInt32 else none

/-- Answer a query. -/
def systemInfo (console : Console) (kind : UInt32) (param : Int32) : Except ResultCode Int64 :=
  match console.failure with
  | some code => .error code
  | none =>
    if kind = Supervisor.memoryUsed then
      match queriedRegion? param with
      | some region => .ok (Int64.ofNat (console.used.count region).toNat)
      | none => .error unknownQuery
    else .error unknownQuery

/-- The console as a supervisor. -/
def supervisor : Supervisor (StateM Console) where
  ticks := do pure (← get).clock
  systemInfo kind param := do pure ((← get).systemInfo kind param)

/-- The console as a supervisor whose clock moves on before each reading. -/
def driftingSupervisor (drift : UInt64) : Supervisor (StateM Console) where
  ticks := do
    modify (·.advance drift)
    pure (← get).clock
  systemInfo := supervisor.systemInfo

end Console

end Horizon
