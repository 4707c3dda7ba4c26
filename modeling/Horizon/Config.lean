/-
  Horizon.Config
  ──────────────
  **SETTINGS OF THE PROBE AND OF THE SIMULATED CONSOLE.**

  The default of every field is the value on an Old model with a recent system.
  Settings are accepted only if the hardware could report them.
-/
import Horizon.Binary.Decimal
import Horizon.Duration
import Horizon.Fault
import Horizon.Region
import Horizon.Version

namespace Horizon

open Binary (Single)

/-- The two hardware models. -/
inductive ConsoleModel where
  /-- The Old model. -/
  | old
  /-- The New model. -/
  | new
  deriving Repr, DecidableEq, Inhabited

namespace ConsoleModel

/-- The model has a faster clock to switch to. -/
def supportsSpeedup : ConsoleModel → Bool
  | .old => false
  | .new => true

/-- The model's name, as settings write it. -/
def text : ConsoleModel → String
  | .old => "old"
  | .new => "new"

/-- The model's name, as reports show it. -/
def label : ConsoleModel → String
  | .old => "Old"
  | .new => "New"

end ConsoleModel

/-- Settings of the tick sampling. -/
structure ProbeConfig where
  /-- Simulated time between samples. -/
  sampleInterval : Duration := .ofMilliseconds 16
  /-- The number of samples. -/
  samples : UInt32 := 4
  deriving Repr, DecidableEq

instance : Inhabited ProbeConfig := ⟨{}⟩

/-- What the simulated console reports. -/
structure SimulationConfig where
  /-- The kernel version. -/
  kernelVersion : SystemVersion := .ofParts 2 57 0
  /-- The firmware version. -/
  firmVersion : SystemVersion := .ofParts 2 57 0
  /-- The core version. -/
  coreVersion : UInt32 := 2
  /-- The number of the application memory layout. -/
  appMemType : UInt32 := 0
  /-- The sizes of the memory regions: 64, 44 and 20 MiB. -/
  regionSizes : RegionBytes := ⟨0x04000000, 0x02C00000, 0x01400000⟩
  /-- Bytes in use in the memory regions. -/
  regionUsed : RegionBytes := ⟨0x00800000, 0x01600000, 0x00E00000⟩
  /-- The strength of the wireless signal, in bars. -/
  wifiStrength : UInt8 := 3
  /-- The position of the 3D slider. -/
  slider3d : Single := ⟨0⟩
  /-- The date at `startTick`, in milliseconds since 1900: the beginning of 2024. -/
  dateTimeMs : UInt64 := 3913056000000
  /-- The tick counter at the start. -/
  startTick : UInt64 := 0
  deriving Repr, DecidableEq

instance : Inhabited SimulationConfig := ⟨{}⟩

/-- All settings. -/
structure PlatformConfig where
  /-- The hardware model. -/
  model : ConsoleModel := .old
  /-- Ask for the faster clock at the start. -/
  speedup : Bool := false
  /-- The tick sampling. -/
  probe : ProbeConfig := {}
  /-- The simulated console. -/
  simulation : SimulationConfig := {}
  deriving Repr, DecidableEq

instance : Inhabited PlatformConfig := ⟨{}⟩

/-! ## Validation. -/

/-- A region's use must not exceed its size. -/
def checkUsed (what : String) (used size : UInt32) : Except Fault Unit :=
  if size < used then .error (.outOfRange what used.toNat) else .ok ()

/-- Accept what the hardware could report, or name the first setting that it could not. -/
def SimulationConfig.validate (c : SimulationConfig) : Except Fault Unit := do
  if 3 < c.wifiStrength then
    throw (.outOfRange "wifi_strength" c.wifiStrength.toNat)
  if !c.slider3d.inUnitInterval then
    throw (.config
      s!"slider_3d must be within 0.0..=1.0, got {Binary.Style.plain.text .single c.slider3d.datum}")
  checkUsed "region_used.application" c.regionUsed.application c.regionSizes.application
  checkUsed "region_used.system" c.regionUsed.system c.regionSizes.system
  checkUsed "region_used.base" c.regionUsed.base c.regionSizes.base

end Horizon
