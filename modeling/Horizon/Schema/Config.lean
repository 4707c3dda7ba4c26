/-
  Horizon.Schema.Config
  ─────────────────────
  **SETTINGS IN DOCUMENTS.**

  What a settings document leaves out keeps the default of the structure that it belongs
  to; a table of byte counts starts from zeros wherever it stands.
-/
import Horizon.Config
import Horizon.Document.Decode

namespace Horizon

namespace Codec

/-- Hardware models. -/
def consoleModel : Codec ConsoleModel :=
  enumeration [("old", .old), ("new", .new)] ConsoleModel.text

/-- Byte counts of the memory regions. -/
def regionBytesRecord : Record RegionBytes where
  name := "RegionBytes"
  fields :=
    [.of "application" word (·.application) fun x c => { c with application := x },
     .of "system" word (·.system) fun x c => { c with system := x },
     .of "base" word (·.base) fun x c => { c with base := x }]
  blank := {}
  complete := false

/-- Byte counts of the memory regions. -/
def regionBytes : Codec RegionBytes := regionBytesRecord.codec

/-- Settings of the tick sampling. -/
def probeConfigRecord : Record ProbeConfig where
  name := "ProbeConfig"
  fields :=
    [.of "sample_interval" duration (·.sampleInterval) fun x c => { c with sampleInterval := x },
     .of "samples" word (·.samples) fun x c => { c with samples := x }]
  blank := {}
  complete := false

/-- Settings of the tick sampling. -/
def probeConfig : Codec ProbeConfig := probeConfigRecord.codec

/-- Settings of the simulated console. -/
def simulationConfigRecord : Record SimulationConfig where
  name := "SimulationConfig"
  fields :=
    [.of "kernel_version" version (·.kernelVersion) fun x c => { c with kernelVersion := x },
     .of "firm_version" version (·.firmVersion) fun x c => { c with firmVersion := x },
     .of "core_version" word (·.coreVersion) fun x c => { c with coreVersion := x },
     .of "app_mem_type" word (·.appMemType) fun x c => { c with appMemType := x },
     .of "region_sizes" regionBytes (·.regionSizes) fun x c => { c with regionSizes := x },
     .of "region_used" regionBytes (·.regionUsed) fun x c => { c with regionUsed := x },
     .of "wifi_strength" byte (·.wifiStrength) fun x c => { c with wifiStrength := x },
     .of "slider_3d" single (·.slider3d) fun x c => { c with slider3d := x },
     .of "datetime_ms" doubleWord (·.dateTimeMs) fun x c => { c with dateTimeMs := x },
     .of "start_tick" doubleWord (·.startTick) fun x c => { c with startTick := x }]
  blank := {}
  complete := false

/-- Settings of the simulated console. -/
def simulationConfig : Codec SimulationConfig := simulationConfigRecord.codec

/-- All settings. -/
def platformConfigRecord : Record PlatformConfig where
  name := "PlatformConfig"
  fields :=
    [.of "model" consoleModel (·.model) fun x c => { c with model := x },
     .of "speedup" boolean (·.speedup) fun x c => { c with speedup := x },
     .of "probe" probeConfig (·.probe) fun x c => { c with probe := x },
     .of "simulation" simulationConfig (·.simulation) fun x c => { c with simulation := x }]
  blank := {}
  complete := false

/-- All settings. -/
def platformConfig : Codec PlatformConfig := platformConfigRecord.codec

end Codec

end Horizon
