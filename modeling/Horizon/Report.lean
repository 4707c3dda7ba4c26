/-
  Horizon.Report
  ──────────────
  **EVERYTHING THE PROBE CAN READ, AT ONE MOMENT.**

  A report takes one query for each row of the memory table and then a single reading of
  the clock, from which both forms of the time are made.
-/
import Horizon.Calendar
import Horizon.Document.Json
import Horizon.Schema.Config
import Horizon.Schema.Console
import Horizon.WallTime

namespace Horizon

open Binary (Single Double)
open Text

/-- A report. -/
structure SystemReport where
  /-- The hardware model. -/
  model : ConsoleModel
  /-- The kernel version. -/
  kernelVersion : SystemVersion
  /-- The firmware version. -/
  firmVersion : SystemVersion
  /-- The core version. -/
  coreVersion : UInt32
  /-- The number of the application memory layout. -/
  appMemType : UInt32
  /-- The strength of the wireless signal, in bars. -/
  wifiStrength : UInt8
  /-- The position of the 3D slider. -/
  slider3d : Single
  /-- Size and use of all memory and of each region. -/
  memory : List MemoryUsage
  /-- Milliseconds since 1900. -/
  timeMs : UInt64
  /-- Milliseconds since 1970. -/
  unixTimeMs : UInt64
  deriving Repr, DecidableEq

namespace SystemReport

/-! ## §1. Collecting. -/

/-- Read everything. -/
def collect {m : Type → Type} [Monad m] (model : ConsoleModel) (bus : Bus)
    (supervisor : Supervisor m) : m SystemReport := do
  let memory ← MemRegion.overview.mapM (regionUsage bus supervisor)
  let timeMs ← WallTime.now bus supervisor
  pure
    { model
      kernelVersion := bus.kernel
      firmVersion := bus.firm
      coreVersion := bus.coreVersion
      appMemType := bus.appMemType
      wifiStrength := bus.wifiStrength
      slider3d := bus.slider3d
      memory
      timeMs
      unixTimeMs := WallTime.toUnix timeMs }

/-! ## §2. Writing. -/

/-- The report as a document. -/
def document (r : SystemReport) : Document :=
  .table
    [("model", Codec.consoleModel.encode r.model),
     ("kernel_version", Codec.version.encode r.kernelVersion),
     ("firm_version", Codec.version.encode r.firmVersion),
     ("core_version", Codec.word.encode r.coreVersion),
     ("app_mem_type", Codec.word.encode r.appMemType),
     ("wifi_strength", Codec.byte.encode r.wifiStrength),
     ("slider_3d", Codec.single.encode r.slider3d),
     ("memory", .list (r.memory.map Codec.memoryUsage.encode)),
     ("time_ms", Codec.doubleWord.encode r.timeMs),
     ("unix_time_ms", Codec.doubleWord.encode r.unixTimeMs)]

/-- The part of a region that is in use, in percent. -/
def percent (usage : MemoryUsage) : Double :=
  usage.utilization.mul (.ofNat 100)

/-- The line of one region. -/
def memoryLine (usage : MemoryUsage) : String :=
  let left (width : Nat) (text : String) := String.ofList (alignLeft width text.toList)
  let right (width : Nat) (n : UInt32) := String.ofList (alignRight width (decimal n.toNat))
  s!"  {left 12 usage.region.text} size {right 10 usage.size}  used {right 10 usage.used}  free {right 10 usage.free}  ({(percent usage).datum.fixed 1}%)\n"

/-- The report as text up to the time. -/
def heading (r : SystemReport) : String :=
  s!"model:          {r.model.label}\n" ++
  s!"kernel version: {r.kernelVersion}\n" ++
  s!"firm version:   {r.firmVersion}\n" ++
  s!"core version:   {r.coreVersion}\n" ++
  s!"app mem type:   {r.appMemType}\n" ++
  s!"wifi strength:  {r.wifiStrength}/3\n" ++
  s!"3d slider:      {r.slider3d.datum.fixed 2}\n" ++
  "time:           "

/-- The report as text.  A time beyond the calendar cannot be written: then the text up
to it is all there is. -/
def text (r : SystemReport) : Except String String :=
  match Calendar.timestamp? r.unixTimeMs with
  | none => .error r.heading
  | some time =>
    .ok (r.heading ++ time ++ "\nmemory:\n" ++ String.join (r.memory.map memoryLine))

end SystemReport

end Horizon
