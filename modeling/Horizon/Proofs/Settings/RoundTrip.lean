/-
  Horizon.Proofs.Settings.RoundTrip
  ─────────────────────────────────
  **SETTINGS READ BACK FROM THEIR TEXT.**

  Settings are portable if their versions have a clear low byte, which the text of a
  version does not show, and their 64-bit numbers a clear top bit, which TOML has no room
  for.  Portable settings that are accepted have a text, and it reads back as the same
  settings in every field.  All settings that are read from a text are portable.
-/
import Horizon.Proofs.Document.Carry
import Horizon.Settings

namespace Horizon

/-! ## §1. The records. -/

/-- Nothing of the console is lost in a text. -/
structure SimulationConfig.Portable (c : SimulationConfig) : Prop where
  kernelVersion : c.kernelVersion.LowByteClear
  firmVersion : c.firmVersion.LowByteClear
  dateTimeMs : c.dateTimeMs.toNat < 2 ^ 63
  startTick : c.startTick.toNat < 2 ^ 63

/-- Nothing of the settings is lost in a text. -/
def PlatformConfig.Portable (c : PlatformConfig) : Prop := c.simulation.Portable

theorem SimulationConfig.isFinite_of_validate {c : SimulationConfig}
    (h : c.validate = .ok ()) : c.slider3d.datum.IsFinite := by
  have hunit : c.slider3d.inUnitInterval := by
    -- the slider is checked second, so the check before it comes into play as well
    unfold validate at h
    cases hslider : c.slider3d.inUnitInterval with
    | true => rfl
    | false =>
        rw [hslider] at h
        by_cases hwifi : 3 < c.wifiStrength <;>
          simp [hwifi, bind, Except.bind, throw, throwThe, MonadExceptOf.throw] at h
  unfold Binary.Single.inUnitInterval at hunit
  split at hunit
  · rename_i hdatum
    exact ⟨_, _, _, hdatum⟩
  · cases hunit

namespace Codec

theorem carries_consoleModel (depth : Nat) (model : ConsoleModel) :
    consoleModel.Carries depth model := by
  cases model <;> exact carries_of_legible depth trivial rfl

theorem proper_regionBytes : regionBytesRecord.Proper := ⟨by decide, by decide, rfl⟩

theorem proper_probeConfig : probeConfigRecord.Proper := ⟨by decide, by decide, rfl⟩

theorem proper_simulationConfig : simulationConfigRecord.Proper := ⟨by decide, by decide, rfl⟩

theorem proper_platformConfig : platformConfigRecord.Proper := ⟨by decide, by decide, rfl⟩

theorem carries_regionBytes (depth : Nat) (bytes : RegionBytes) :
    regionBytes.Carries (depth + 1) bytes :=
  proper_regionBytes.carries <|
    .cons (Field.restores_of (carries_word _ bytes.application)) <|
    .cons (Field.restores_of (carries_word _ bytes.system)) <|
    .cons (Field.restores_of (carries_word _ bytes.base)) .nil

theorem carries_probeConfig (depth : Nat) (probe : ProbeConfig) :
    probeConfig.Carries (depth + 1) probe :=
  proper_probeConfig.carries <|
    .cons (Field.restores_of (carries_duration _ probe.sampleInterval)) <|
    .cons (Field.restores_of (carries_word _ probe.samples)) .nil

/-- The byte counts of the regions are tables and come last, though they stand in the
middle. -/
theorem carries_simulationConfig (depth : Nat) {c : SimulationConfig} (h : c.Portable)
    (hv : c.validate = .ok ()) : simulationConfig.Carries (depth + 2) c :=
  proper_simulationConfig.carries <|
    .cons (Field.restores_of (carries_version _ h.kernelVersion)) <|
    .cons (Field.restores_of (carries_version _ h.firmVersion)) <|
    .cons (Field.restores_of (carries_word _ c.coreVersion)) <|
    .cons (Field.restores_of (carries_word _ c.appMemType)) <|
    .cons (Field.restores_of (carries_byte _ c.wifiStrength)) <|
    .cons (Field.restores_of (carries_single _ (SimulationConfig.isFinite_of_validate hv))) <|
    .cons (Field.restores_of (carries_doubleWord _ h.dateTimeMs)) <|
    .cons (Field.restores_of (carries_doubleWord _ h.startTick)) <|
    .cons (Field.restores_of (carries_regionBytes depth c.regionSizes)) <|
    .cons (Field.restores_of (carries_regionBytes depth c.regionUsed)) .nil

theorem carries_platformConfig (depth : Nat) {c : PlatformConfig} (h : c.Portable)
    (hv : c.simulation.validate = .ok ()) : platformConfig.Carries (depth + 3) c :=
  proper_platformConfig.carries <|
    .cons (Field.restores_of (carries_consoleModel _ c.model)) <|
    .cons (Field.restores_of (carries_boolean _ c.speedup)) <|
    .cons (Field.restores_of (carries_probeConfig (depth + 1) c.probe)) <|
    .cons (Field.restores_of (carries_simulationConfig depth h hv)) .nil

/-! ## §2. What is read is portable. -/

theorem portable_of_decode {document : Document} {c : SimulationConfig} (hd : document.Within)
    (h : simulationConfig.decode .toml document = .ok c) : c.Portable := by
  have hblank : SimulationConfig.Portable {} :=
    ⟨by decide, by decide, by decide, by decide⟩
  refine Record.decode_keeps hblank ?_ hd h
  have hversion : ∀ {document v}, document.Within →
      version.decode .toml document = .ok v → v.LowByteClear :=
    fun _ => lowByteClear_of_decode
  -- four fields are promised something by their codecs, the others do not matter
  intro field hfield
  simp only [simulationConfigRecord, List.mem_cons, List.not_mem_nil, or_false] at hfield
  rcases hfield with rfl | rfl | rfl | rfl | rfl | rfl | rfl | rfl | rfl | rfl
  · exact Field.keeps_of hversion fun h hv => { h with kernelVersion := hv }
  · exact Field.keeps_of hversion fun h hv => { h with firmVersion := hv }
  · exact Field.keeps_other fun h => { h with }
  · exact Field.keeps_other fun h => { h with }
  · exact Field.keeps_other fun h => { h with }
  · exact Field.keeps_other fun h => { h with }
  · exact Field.keeps_other fun h => { h with }
  · exact Field.keeps_other fun h => { h with }
  · exact Field.keeps_of lt_of_decode fun h hv => { h with dateTimeMs := hv }
  · exact Field.keeps_of lt_of_decode fun h hv => { h with startTick := hv }

theorem portable_of_decode_settings {document : Document} (hd : document.Within)
    {c : PlatformConfig} (h : platformConfig.decode .toml document = .ok c) : c.Portable := by
  have hblank : PlatformConfig.Portable {} :=
    ⟨by decide, by decide, by decide, by decide⟩
  refine Record.decode_keeps hblank ?_ hd h
  intro field hfield
  simp only [platformConfigRecord, List.mem_cons, List.not_mem_nil, or_false] at hfield
  rcases hfield with rfl | rfl | rfl | rfl
  · exact Field.keeps_other fun h => h
  · exact Field.keeps_other fun h => h
  · exact Field.keeps_other fun h => h
  · exact Field.keeps_of portable_of_decode fun _ hc => hc

end Codec

/-! ## §3. The round trip. -/

namespace PlatformConfig

/-- Settings that are read from a text are portable and accepted. -/
theorem portable_of_ofToml {source : String} {c : PlatformConfig} (h : ofToml source = .ok c) :
    c.Portable ∧ c.simulation.validate = .ok () := by
  unfold ofToml at h
  split at h
  · cases h
  · rename_i document hparse
    split at h
    · cases h
    · rename_i config hdecode
      split at h
      · cases h
      · rename_i hvalidate
        cases h
        exact ⟨Codec.portable_of_decode_settings (Toml.parse_within hparse) hdecode, hvalidate⟩

/-- Portable settings that are accepted have a text and read back from it. -/
theorem exists_text {c : PlatformConfig} (h : c.Portable)
    (hv : c.simulation.validate = .ok ()) :
    ∃ text, c.toToml = .ok text ∧ ofToml text = .ok c := by
  -- three levels of tables are well within what the reader takes
  obtain ⟨hplain, hdecode⟩ := Codec.carries_platformConfig 77 h hv
  have hencode : Codec.platformConfig.encode c
      = .table (Codec.platformConfigRecord.entries c) := rfl
  rw [hencode] at hplain hdecode
  obtain ⟨text, hwrite, hparse⟩ := Toml.parse_write (Document.plain_table.mp hplain)
  rw [Document.reread] at hdecode
  refine ⟨text, ?_, ?_⟩
  · unfold Record.entries at hwrite
    unfold toToml
    dsimp only
    rw [hwrite]
    rfl
  · unfold ofToml
    simp only [hparse, hdecode, hv]

/-- **Settings survive TOML.**  If the settings were read from a text, or are accepted and
portable, then they have a text, reading it gives the same settings in every field, and
these have the same text again. -/
theorem toml_round_trip {c : PlatformConfig}
    (h : (∃ source, ofToml source = .ok c) ∨
      (c.simulation.validate = .ok () ∧ c.Portable)) :
    ∃ text c', c.toToml = .ok text ∧ ofToml text = .ok c' ∧ c' = c ∧ c'.toToml = .ok text := by
  -- settings from a text are a case of portable settings
  have haccepted : c.Portable ∧ c.simulation.validate = .ok () := by
    rcases h with ⟨source, hsource⟩ | ⟨hv, hp⟩
    · exact portable_of_ofToml hsource
    · exact ⟨hp, hv⟩
  obtain ⟨text, hwrite, hread⟩ := exists_text haccepted.1 haccepted.2
  exact ⟨text, c, hwrite, hread, rfl, hwrite⟩

/-- Settings that are given in another order and form than they are written in. -/
def scattered : PlatformConfig :=
  { probe := { sampleInterval := ⟨60 * 10 ^ 9 + 500000, by decide⟩ }
    simulation := { regionUsed := ⟨4096, 0, 0⟩, slider3d := ⟨0x3F800000⟩ } }

/-- Settings with the longest duration. -/
def patient : PlatformConfig :=
  { probe := { sampleInterval := ⟨2 ^ 64 * 10 ^ 9 - 1, by decide⟩ } }

theorem toml_round_trip_of_scattered_and_patient :
    (ofToml ("[simulation]\nslider_3d = 1\nregion_used = [4096]\n" ++
        "[probe]\nsample_interval = \"1m 500us\"\n") = .ok scattered ∧
      ∃ text c', scattered.toToml = .ok text ∧ ofToml text = .ok c' ∧ c' = scattered ∧
        c'.toToml = .ok text) ∧
    ((patient.simulation.validate = .ok () ∧ patient.Portable) ∧
      ∃ text c', patient.toToml = .ok text ∧ ofToml text = .ok c' ∧ c' = patient ∧
        c'.toToml = .ok text) := by
  have hread : ofToml ("[simulation]\nslider_3d = 1\nregion_used = [4096]\n" ++
      "[probe]\nsample_interval = \"1m 500us\"\n") = .ok scattered := by
    decide +kernel
  have hvalidate : patient.simulation.validate = .ok () := by decide
  have hportable : patient.Portable := ⟨by decide, by decide, by decide, by decide⟩
  exact ⟨⟨hread, toml_round_trip (.inl ⟨_, hread⟩)⟩, ⟨hvalidate, hportable⟩,
    toml_round_trip (.inr ⟨hvalidate, hportable⟩)⟩

end PlatformConfig

end Horizon
