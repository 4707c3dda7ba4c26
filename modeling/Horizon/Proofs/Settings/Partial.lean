/-
  Horizon.Proofs.Settings.Partial
  ───────────────────────────────
  **PARTIAL SETTINGS OVERRIDE THE DEFAULTS.**

  Settings may be given in part.  What is given counts, and what is missing comes from the
  default of the structure that it belongs to; for a byte count this depends on whether
  its table is there:

      document                              region_sizes.system
      region_sizes = { system = 5, … }      5
      region_sizes = { application = 7 }    0
      no region_sizes                       44 MiB

  Keys that are no settings and the order of keys have no influence.
-/
import Horizon.Proofs.Document.Partial
import Horizon.Proofs.Schema.RoundTrip
import Horizon.Proofs.Settings.RoundTrip

namespace Horizon

/-! ## §1. Settings without some of their keys. -/

section

variable (deleted : List KeyPath) (path : KeyPath)

/-- The byte counts in a table at a path, some of whose keys were deleted. -/
def RegionBytes.without (bytes : RegionBytes) : RegionBytes where
  application := if path ++ ["application"] ∈ deleted then 0 else bytes.application
  system := if path ++ ["system"] ∈ deleted then 0 else bytes.system
  base := if path ++ ["base"] ∈ deleted then 0 else bytes.base

/-- The tick sampling in a table at a path, some of whose keys were deleted. -/
def ProbeConfig.without (probe : ProbeConfig) : ProbeConfig :=
  let default : ProbeConfig := {}
  { sampleInterval :=
      if path ++ ["sample_interval"] ∈ deleted then default.sampleInterval
      else probe.sampleInterval
    samples := if path ++ ["samples"] ∈ deleted then default.samples else probe.samples }

/-- The simulated console in a table at a path, some of whose keys were deleted: a missing
table of byte counts is that of the default, one that is there is taken as it is. -/
def SimulationConfig.without (c : SimulationConfig) : SimulationConfig :=
  let default : SimulationConfig := {}
  { kernelVersion :=
      if path ++ ["kernel_version"] ∈ deleted then default.kernelVersion else c.kernelVersion
    firmVersion :=
      if path ++ ["firm_version"] ∈ deleted then default.firmVersion else c.firmVersion
    coreVersion :=
      if path ++ ["core_version"] ∈ deleted then default.coreVersion else c.coreVersion
    appMemType :=
      if path ++ ["app_mem_type"] ∈ deleted then default.appMemType else c.appMemType
    regionSizes :=
      if path ++ ["region_sizes"] ∈ deleted then default.regionSizes
      else c.regionSizes.without deleted (path ++ ["region_sizes"])
    regionUsed :=
      if path ++ ["region_used"] ∈ deleted then default.regionUsed
      else c.regionUsed.without deleted (path ++ ["region_used"])
    wifiStrength :=
      if path ++ ["wifi_strength"] ∈ deleted then default.wifiStrength else c.wifiStrength
    slider3d := if path ++ ["slider_3d"] ∈ deleted then default.slider3d else c.slider3d
    dateTimeMs := if path ++ ["datetime_ms"] ∈ deleted then default.dateTimeMs else c.dateTimeMs
    startTick := if path ++ ["start_tick"] ∈ deleted then default.startTick else c.startTick }

/-- The settings in a table at a path, some of whose keys were deleted. -/
def PlatformConfig.without (c : PlatformConfig) : PlatformConfig :=
  let default : PlatformConfig := {}
  { model := if path ++ ["model"] ∈ deleted then default.model else c.model
    speedup := if path ++ ["speedup"] ∈ deleted then default.speedup else c.speedup
    probe :=
      if path ++ ["probe"] ∈ deleted then default.probe
      else c.probe.without deleted (path ++ ["probe"])
    simulation :=
      if path ++ ["simulation"] ∈ deleted then default.simulation
      else c.simulation.without deleted (path ++ ["simulation"]) }

end

/-! ## §2. What is read from edited tables. -/

namespace Codec

variable (d : Dialect) (deleted : List KeyPath) (path : KeyPath)

theorem readsBack_consoleModel (model : ConsoleModel) : consoleModel.ReadsBack d model := by
  cases model <;> exact readsBack_of_decode (Json.readAs_text _) rfl rfl

theorem overrides_regionBytes (bytes : RegionBytes) :
    regionBytes.Overrides d deleted path bytes (bytes.without deleted path) :=
  independent_regionBytes.overrides rfl <|
    .of ((readsBack_word d bytes.application).overrides rfl) rfl <|
    .of ((readsBack_word d bytes.system).overrides rfl) rfl <|
    .of ((readsBack_word d bytes.base).overrides rfl) rfl .nil

theorem overrides_probeConfig (probe : ProbeConfig) :
    probeConfig.Overrides d deleted path probe (probe.without deleted path) :=
  independent_probeConfig.overrides rfl <|
    .of ((readsBack_duration d probe.sampleInterval).overrides rfl) rfl <|
    .of ((readsBack_word d probe.samples).overrides rfl) rfl .nil

theorem overrides_simulationConfig {c : SimulationConfig} (kernel : c.kernelVersion.LowByteClear)
    (firm : c.firmVersion.LowByteClear) (slider : single.ReadsBack d c.slider3d) :
    simulationConfig.Overrides d deleted path c (c.without deleted path) :=
  independent_simulationConfig.overrides rfl <|
    .of ((readsBack_version d kernel).overrides rfl) rfl <|
    .of ((readsBack_version d firm).overrides rfl) rfl <|
    .of ((readsBack_word d c.coreVersion).overrides rfl) rfl <|
    .of ((readsBack_word d c.appMemType).overrides rfl) rfl <|
    .of (overrides_regionBytes d deleted _ c.regionSizes) rfl <|
    .of (overrides_regionBytes d deleted _ c.regionUsed) rfl <|
    .of ((readsBack_byte d c.wifiStrength).overrides rfl) rfl <|
    .of (slider.overrides rfl) rfl <|
    .of ((readsBack_doubleWord d c.dateTimeMs).overrides rfl) rfl <|
    .of ((readsBack_doubleWord d c.startTick).overrides rfl) rfl .nil

theorem overrides_platformConfig {c : PlatformConfig}
    (kernel : c.simulation.kernelVersion.LowByteClear)
    (firm : c.simulation.firmVersion.LowByteClear)
    (slider : single.ReadsBack d c.simulation.slider3d) :
    platformConfig.Overrides d deleted path c (c.without deleted path) :=
  independent_platformConfig.overrides rfl <|
    .of ((readsBack_consoleModel d c.model).overrides rfl) rfl <|
    .of ((readsBack_boolean d c.speedup).overrides rfl) rfl <|
    .of (overrides_probeConfig d deleted _ c.probe) rfl <|
    .of (overrides_simulationConfig d deleted _ kernel firm slider) rfl .nil

end Codec

/-! ## §3. Edited settings. -/

namespace PlatformConfig

/-- **PARTIAL SETTINGS OVERRIDE THE DEFAULTS.**  Whatever keys are deleted from the table of
settings, at any depth, and whatever other keys are added to it, in whatever order: it is
read as the settings without what was deleted.  From a text with this table they are taken
as they are in JSON, and in TOML if such a console could exist. -/
theorem edited_table_overrides_defaults (c : PlatformConfig) (deleted : List KeyPath)
    (edited : Document) :
    (c.KeptByJson → (Codec.platformConfig.encode c).EditedTo .json deleted [] edited →
      Codec.platformConfig.decode .json edited = .ok (c.without deleted [])
      ∧ ∀ source, Json.parse source = some edited →
        Codec.platformConfig.ofJson? source = some (c.without deleted []))
    ∧ (c.Portable → c.simulation.slider3d.datum.IsFinite →
      (Codec.platformConfig.encode c).EditedTo .toml deleted [] edited →
      Codec.platformConfig.decode .toml edited = .ok (c.without deleted [])
      ∧ ∀ source, Toml.parse source = some edited →
        ofToml source = ((c.without deleted []).simulation.validate.mapError .invalid).map
          fun _ => c.without deleted []) := by
  constructor
  · intro kept edits
    have decodes := Codec.overrides_platformConfig .json deleted [] kept.kernelVersion
      kept.firmVersion (Codec.readsBack_single_json kept.slider3d) edited edits
    refine ⟨decodes, fun source parses => ?_⟩
    unfold Codec.ofJson?
    rw [parses, Option.bind_some, decodes]
    rfl
  · intro portable finite edits
    have decodes := Codec.overrides_platformConfig .toml deleted [] portable.kernelVersion
      portable.firmVersion (Codec.readsBack_single_toml finite) edited edits
    refine ⟨decodes, fun source parses => ?_⟩
    unfold ofToml
    rw [parses]
    dsimp only
    rw [decodes]
    dsimp only
    -- what is left is whether such a console could exist
    cases (c.without deleted []).simulation.validate <;> rfl

example : (Codec.platformConfig.decode .toml (.table [("simulation", .table [])])).map
    (·.simulation.regionSizes) = .ok ⟨64 * 2 ^ 20, 44 * 2 ^ 20, 20 * 2 ^ 20⟩ := by rfl

example : (Codec.platformConfig.decode .toml
    (.table [("simulation", .table [("region_sizes", .table [])])])).map
    (·.simulation.regionSizes) = .ok ⟨0, 0, 0⟩ := by rfl

/-- Settings of which little is given. -/
def generous : PlatformConfig :=
  { model := .new
    speedup := true
    simulation :=
      { coreVersion := 7
        regionUsed := ⟨7, 8, 9⟩
        slider3d := ⟨0x3DCCCCCD⟩
        dateTimeMs := 5 } }

/-- What is not given of them. -/
def withheld : List KeyPath :=
  [["speedup"], ["probe"], ["simulation", "kernel_version"], ["simulation", "firm_version"],
    ["simulation", "core_version"], ["simulation", "app_mem_type"],
    ["simulation", "region_sizes"], ["simulation", "region_used", "application"],
    ["simulation", "region_used", "system"], ["simulation", "wifi_strength"],
    ["simulation", "slider_3d"], ["simulation", "start_tick"]]

/-- The byte counts that are given, with a spare region. -/
def usedEntries : List (String × Document) := [("base", .integer 9), ("spare", .text "")]

/-- What is given of the console. -/
def consoleEntries : List (String × Document) :=
  [("datetime_ms", .integer 5), ("region_used", .table usedEntries)]

/-- What is given of all settings, with a note. -/
def sparse : List (String × Document) :=
  [("model", .text "new"), ("note", .text ""), ("simulation", .table consoleEntries)]

/-- What is read: the default in place of the byte counts of a table that is missing, zeros
in place of those that are missing in a table. -/
def settled : PlatformConfig :=
  { model := .new
    simulation := { regionUsed := ⟨0, 0, 9⟩, dateTimeMs := 5 } }

theorem editedTo_sparse (d : Dialect) :
    (Codec.platformConfig.encode generous).EditedTo d withheld [] (.table sparse) := by
  have used : (Codec.regionBytes.encode generous.simulation.regionUsed).EditedTo d withheld
      ["simulation", "region_used"] (.table usedEntries) :=
    .table
      (.delete (by decide) <| .delete (by decide) <|
        .keep (by decide) (.scalar rfl .written) .nil)
      (by decide) (by decide) (.refl _)
  have console : (Codec.simulationConfig.encode generous.simulation).EditedTo d withheld
      ["simulation"] (.table consoleEntries) :=
    .table
      (.delete (by decide) <| .delete (by decide) <| .delete (by decide) <|
        .delete (by decide) <| .delete (by decide) <| .keep (by decide) used <|
        .delete (by decide) <| .delete (by decide) <|
        .keep (by decide) (.scalar rfl .written) <| .delete (by decide) .nil)
      (List.forall_mem_nil _) (by decide) (.swap _ _ _)
  have order : sparse.Perm
      ([("model", .text "new"), ("simulation", .table consoleEntries)]
        ++ [("note", .text "")]) :=
    .cons _ (.swap _ _ _)
  exact .table
    (.keep (by decide) (.scalar rfl .written) <| .delete (by decide) <| .delete (by decide) <|
      .keep (by decide) console .nil)
    (by decide) (by decide) order

theorem readAs_sparse : Json.ReadAs (.table sparse) (.table sparse) := by
  have used : Json.ReadAs (.table usedEntries) (.table usedEntries) :=
    Json.readAs_table_self (List.forall_mem_cons.mpr
      ⟨Codec.readAs_natural (by decide), List.forall_mem_singleton.mpr (Json.readAs_text "")⟩) rfl
  have console : Json.ReadAs (.table consoleEntries) (.table consoleEntries) :=
    Json.readAs_table_self (List.forall_mem_cons.mpr
      ⟨Codec.readAs_natural (by decide), List.forall_mem_singleton.mpr used⟩) rfl
  exact Json.readAs_table_self (List.forall_mem_cons.mpr
    ⟨Json.readAs_text "new", List.forall_mem_cons.mpr
      ⟨Json.readAs_text "", List.forall_mem_singleton.mpr console⟩⟩) rfl

theorem plain_sparse : EntriesPlain 79 sparse := by
  have nine : (Document.integer 9).Plain 77 := ⟨by decide, by decide⟩
  have five : (Document.integer 5).Plain 78 := ⟨by decide, by decide⟩
  have used : EntriesPlain 77 usedEntries :=
    ⟨by decide, by decide, nine, by decide, by decide, trivial, trivial⟩
  have console : EntriesPlain 78 consoleEntries :=
    ⟨by decide, by decide, five, by decide, by decide, used, trivial⟩
  exact ⟨by decide, by decide, trivial, by decide, by decide, trivial, by decide, by decide,
    console, trivial⟩

theorem edited_table_overrides_defaults_of_sparse :
    (generous.KeptByJson
      ∧ (Codec.platformConfig.encode generous).EditedTo .json withheld [] (.table sparse)
      ∧ Codec.platformConfig.decode .json (.table sparse) = .ok settled
      ∧ Codec.platformConfig.ofJson? (Json.compact (.table sparse)) = some settled)
    ∧ (generous.Portable ∧ generous.simulation.slider3d.datum.IsFinite
      ∧ (Codec.platformConfig.encode generous).EditedTo .toml withheld [] (.table sparse)
      ∧ Codec.platformConfig.decode .toml (.table sparse) = .ok settled
      ∧ ofToml ("model = \"new\"\nnote = \"\"\n\n[simulation]\ndatetime_ms = 5\n\n"
            ++ "[simulation.region_used]\nbase = 9\nspare = \"\"\n") = .ok settled) := by
  have kept : generous.KeptByJson := ⟨by decide, by decide, by decide +kernel⟩
  have portable : generous.Portable := ⟨by decide, by decide, by decide, by decide⟩
  have finite : generous.simulation.slider3d.datum.IsFinite := ⟨_, _, _, rfl⟩
  have result : generous.without withheld [] = settled := by decide
  have law := edited_table_overrides_defaults generous withheld (.table sparse)
  rw [result] at law
  obtain ⟨decodesJson, readsJson⟩ := law.1 kept (editedTo_sparse .json)
  obtain ⟨decodesToml, readsToml⟩ := law.2 portable finite (editedTo_sparse .toml)
  -- the TOML text is the one that is written for the entries
  obtain ⟨text, written, parses⟩ := Toml.parse_write plain_sparse
  have same : Toml.write sparse
      = .ok ("model = \"new\"\nnote = \"\"\n\n[simulation]\ndatetime_ms = 5\n\n"
          ++ "[simulation.region_used]\nbase = 9\nspare = \"\"\n") := by
    decide +kernel
  rw [same] at written
  cases written
  exact ⟨⟨kept, editedTo_sparse .json, decodesJson, readsJson _ readAs_sparse.parse⟩,
    portable, finite, editedTo_sparse .toml, decodesToml, readsToml _ parses⟩

end PlatformConfig

end Horizon
