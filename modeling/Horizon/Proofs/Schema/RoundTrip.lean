/-
  Horizon.Proofs.Schema.RoundTrip
  ───────────────────────────────
  **EVERY TYPE THAT HAS A JSON FORM SURVIVES IT.**

      names       regions, models, records       as texts
      variants    levels, summaries              as texts, or a byte under `other`
      numbers     result codes                   as signed words
      structures  settings, readings             as tables, or as lists of their fields

  Only settings may hold what JSON does not show: the low byte of a version, and a slider
  whose digits do not read back.
-/
import Horizon.Proofs.Document.Survival
import Horizon.Schema.Config
import Horizon.Schema.Console
import Horizon.Schema.Result

namespace Horizon

namespace Codec

/-! ## §1. Names and variants. -/

theorem survives_consoleModel (model : ConsoleModel) : consoleModel.Survives model := by
  cases model <;> exact survives_enumeration rfl

theorem survives_memRegion (region : MemRegion) : memRegion.Survives region := by
  cases region <;> exact survives_enumeration rfl

theorem survives_versionRecord (record : VersionRecord) : versionRecord.Survives record := by
  cases record <;> exact survives_enumeration rfl

theorem survives_systemRegion (region : SystemRegion) : systemRegion.Survives region := by
  cases region <;> exact survives_enumeration rfl

/-- A level without a name keeps its byte, whatever the byte is. -/
theorem survives_level (value : Level) : level.Survives value := by
  cases value with
  | other bits => exact survives_other rfl rfl
  | _ => exact survives_named rfl rfl

theorem survives_summary (value : Summary) : summary.Survives value := by
  cases value with
  | other bits => exact survives_other rfl rfl
  | _ => exact survives_named rfl rfl

/-! ## §2. Lists. -/

theorem survives_threeBytes (bytes : UInt8 × UInt8 × UInt8) : threeBytes.Survives bytes := by
  obtain ⟨first, second, third⟩ := bytes
  obtain ⟨x, textX, readX⟩ := survives_byte first
  obtain ⟨y, textY, readY⟩ := survives_byte second
  obtain ⟨z, textZ, readZ⟩ := survives_byte third
  refine ⟨.list [x, y, z], ?_, ?_⟩
  · exact Json.readAs_list (.cons textX (.cons textY (.cons textZ .nil)))
  · simp only [threeBytes, readX, readY, readZ, bind, Except.bind]
    rfl

/-! ## §3. Structures. -/

theorem independent_regionBytes : regionBytesRecord.Independent :=
  ⟨by decide, by simp [regionBytesRecord, Field.apart_of]⟩

theorem independent_probeConfig : probeConfigRecord.Independent :=
  ⟨by decide, by simp [probeConfigRecord, Field.apart_of]⟩

theorem independent_simulationConfig : simulationConfigRecord.Independent :=
  ⟨by decide, by simp [simulationConfigRecord, Field.apart_of]⟩

theorem independent_platformConfig : platformConfigRecord.Independent :=
  ⟨by decide, by simp [platformConfigRecord, Field.apart_of]⟩

theorem independent_memoryUsage : memoryUsageRecord.Independent :=
  ⟨by decide, by simp [memoryUsageRecord, Field.apart_of]⟩

theorem independent_dateTimeRecord : dateTimeRecordRecord.Independent :=
  ⟨by decide, by simp [dateTimeRecordRecord, Field.apart_of]⟩

theorem independent_tickCounter : tickCounterRecord.Independent :=
  ⟨by decide, by simp [tickCounterRecord, Field.apart_of]⟩

theorem independent_versionBin : versionBinRecord.Independent :=
  ⟨by decide, by simp [versionBinRecord, Field.apart_of]⟩

theorem independent_systemVersionData : systemVersionDataRecord.Independent :=
  ⟨by decide, by simp [systemVersionDataRecord, Field.apart_of]⟩

theorem survives_regionBytes (bytes : RegionBytes) :
    regionBytes.Survives bytes ∧ regionBytesRecord.RoundTrips bytes :=
  independent_regionBytes.survives <|
    .cons (Field.survives_of (survives_word bytes.application)) <|
    .cons (Field.survives_of (survives_word bytes.system)) <|
    .cons (Field.survives_of (survives_word bytes.base)) .nil

theorem survives_probeConfig (probe : ProbeConfig) :
    probeConfig.Survives probe ∧ probeConfigRecord.RoundTrips probe :=
  independent_probeConfig.survives <|
    .cons (Field.survives_of (survives_duration probe.sampleInterval)) <|
    .cons (Field.survives_of (survives_word probe.samples)) .nil

theorem survives_memoryUsage (usage : MemoryUsage) :
    memoryUsage.Survives usage ∧ memoryUsageRecord.RoundTrips usage :=
  independent_memoryUsage.survives <|
    .cons (Field.survives_of (survives_memRegion usage.region)) <|
    .cons (Field.survives_of (survives_word usage.size)) <|
    .cons (Field.survives_of (survives_word usage.used)) <|
    .cons (Field.survives_of (survives_word usage.free)) .nil

theorem survives_dateTimeRecord (record : DateTimeRecord) :
    dateTimeRecord.Survives record ∧ dateTimeRecordRecord.RoundTrips record :=
  independent_dateTimeRecord.survives <|
    .cons (Field.survives_of (survives_doubleWord record.dateTime)) <|
    .cons (Field.survives_of (survives_doubleWord record.updateTick)) .nil

theorem survives_tickCounter (counter : TickCounter) :
    tickCounter.Survives counter ∧ tickCounterRecord.RoundTrips counter :=
  independent_tickCounter.survives <|
    .cons (Field.survives_of (survives_doubleWord counter.elapsed)) <|
    .cons (Field.survives_of (survives_doubleWord counter.reference)) .nil

theorem survives_versionBin (record : VersionBin) :
    versionBin.Survives record ∧ versionBinRecord.RoundTrips record :=
  independent_versionBin.survives <|
    .cons (Field.survives_of (survives_byte record.build)) <|
    .cons (Field.survives_of (survives_byte record.minor)) <|
    .cons (Field.survives_of (survives_byte record.mainver)) <|
    .cons (Field.survives_of (survives_byte record.reserved3)) <|
    .cons (Field.survives_of (survives_byte record.region)) <|
    .cons (Field.survives_of (survives_threeBytes record.reserved5)) .nil

theorem survives_systemVersionData (data : SystemVersionData) :
    systemVersionData.Survives data ∧ systemVersionDataRecord.RoundTrips data :=
  independent_systemVersionData.survives <|
    .cons (Field.survives_of (survives_versionBin data.nver).1) <|
    .cons (Field.survives_of (survives_versionBin data.cver).1) .nil

end Codec

/-! ## §4. Settings. -/

/-- Nothing of the console is lost in JSON: no low byte of a version is, and the digits of
the slider read back. -/
structure SimulationConfig.KeptByJson (c : SimulationConfig) : Prop where
  kernelVersion : c.kernelVersion.LowByteClear
  firmVersion : c.firmVersion.LowByteClear
  slider3d : Codec.single.ofJson? (Codec.single.toJson c.slider3d) = some c.slider3d

/-- Nothing of the settings is lost in JSON. -/
def PlatformConfig.KeptByJson (c : PlatformConfig) : Prop := c.simulation.KeptByJson

namespace Codec

theorem survives_simulationConfig {c : SimulationConfig} (h : c.KeptByJson) :
    simulationConfig.Survives c ∧ simulationConfigRecord.RoundTrips c :=
  independent_simulationConfig.survives <|
    .cons (Field.survives_of (survives_version h.kernelVersion)) <|
    .cons (Field.survives_of (survives_version h.firmVersion)) <|
    .cons (Field.survives_of (survives_word c.coreVersion)) <|
    .cons (Field.survives_of (survives_word c.appMemType)) <|
    .cons (Field.survives_of (survives_regionBytes c.regionSizes).1) <|
    .cons (Field.survives_of (survives_regionBytes c.regionUsed).1) <|
    .cons (Field.survives_of (survives_byte c.wifiStrength)) <|
    .cons (Field.survives_of (survives_single h.slider3d)) <|
    .cons (Field.survives_of (survives_doubleWord c.dateTimeMs)) <|
    .cons (Field.survives_of (survives_doubleWord c.startTick)) .nil

theorem survives_platformConfig {c : PlatformConfig} (h : c.KeptByJson) :
    platformConfig.Survives c ∧ platformConfigRecord.RoundTrips c :=
  independent_platformConfig.survives <|
    .cons (Field.survives_of (survives_consoleModel c.model)) <|
    .cons (Field.survives_of (survives_boolean c.speedup)) <|
    .cons (Field.survives_of (survives_probeConfig c.probe).1) <|
    .cons (Field.survives_of (survives_simulationConfig h).1) .nil

/-! ## §5. All of them. -/

/-- **EVERY VALUE IS READ BACK FROM ITS JSON TEXT**: each structure from its table and from
the list of its fields, each of the other types from the one form it has, and a level or
summary without a name as just that. -/
theorem json_round_trip :
    (∀ c : SimulationConfig, c.KeptByJson → simulationConfigRecord.RoundTrips c)
    ∧ (∀ c : PlatformConfig, c.KeptByJson → platformConfigRecord.RoundTrips c)
    ∧ (∀ bytes, regionBytesRecord.RoundTrips bytes)
    ∧ (∀ probe, probeConfigRecord.RoundTrips probe)
    ∧ (∀ usage, memoryUsageRecord.RoundTrips usage)
    ∧ (∀ record, dateTimeRecordRecord.RoundTrips record)
    ∧ (∀ counter, tickCounterRecord.RoundTrips counter)
    ∧ (∀ record, versionBinRecord.RoundTrips record)
    ∧ (∀ data, systemVersionDataRecord.RoundTrips data)
    ∧ (∀ code, resultCode.ofJson? (resultCode.toJson code) = some code)
    ∧ (∀ value, level.ofJson? (level.toJson value) = some value)
    ∧ (∀ value, summary.ofJson? (summary.toJson value) = some value)
    ∧ (∀ region, memRegion.ofJson? (memRegion.toJson region) = some region)
    ∧ (∀ model, consoleModel.ofJson? (consoleModel.toJson model) = some model)
    ∧ (∀ record, versionRecord.ofJson? (versionRecord.toJson record) = some record)
    ∧ (∀ region, systemRegion.ofJson? (systemRegion.toJson region) = some region) := by
  refine ⟨fun c h => (survives_simulationConfig h).2, fun c h => (survives_platformConfig h).2,
    fun bytes => (survives_regionBytes bytes).2, fun probe => (survives_probeConfig probe).2,
    fun usage => (survives_memoryUsage usage).2, fun record => (survives_dateTimeRecord record).2,
    fun counter => (survives_tickCounter counter).2,
    fun record => (survives_versionBin record).2,
    fun data => (survives_systemVersionData data).2, ?_⟩
  refine ⟨fun code => (survives_resultCode code).ofJson?,
    fun value => (survives_level value).ofJson?, fun value => (survives_summary value).ofJson?,
    fun region => (survives_memRegion region).ofJson?,
    fun model => (survives_consoleModel model).ofJson?,
    fun record => (survives_versionRecord record).ofJson?,
    fun region => (survives_systemRegion region).ofJson?⟩

/-- Settings at the ends of their ranges, with a slider that has no short binary form. -/
def extreme : PlatformConfig :=
  { probe :=
      { sampleInterval := ⟨(2 ^ 64 - 1) * 10 ^ 9 + 999999999, by decide⟩
        samples := 0xFFFFFFFF }
    simulation :=
      { kernelVersion := .ofParts 255 255 255
        slider3d := ⟨0x3DCCCCCD⟩
        dateTimeMs := 0xFFFFFFFFFFFFFFFF
        startTick := 0xFFFFFFFFFFFFFFFF } }

theorem json_round_trip_of_extreme :
    extreme.KeptByJson ∧ platformConfigRecord.RoundTrips extreme
      ∧ simulationConfigRecord.RoundTrips extreme.simulation := by
  have kept : extreme.KeptByJson := ⟨by decide, by decide, by decide +kernel⟩
  exact ⟨kept, json_round_trip.2.1 extreme kept, json_round_trip.1 extreme.simulation kept⟩

end Codec

end Horizon
