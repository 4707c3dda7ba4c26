/-
  Horizon.Proofs.Version.Canonical
  ────────────────────────────────
  **VERSIONS IN CANONICAL FORM.**

  Of all spellings of a version, writing picks the plain decimal one:

      "  +07.0.255 "      spells      7, 0, 255      written      "7.0.255"

  So reading a text and writing the version again puts it into canonical form, and the
  low byte of a word, which no spelling tells, is lost.  Documents hold versions as such
  texts.
-/
import Horizon.Proofs.Document.Survival
import Horizon.Proofs.Version.Spelling
import Mathlib.Data.Set.Function

namespace Horizon.SystemVersion

open Text

/-! ## §1. Writing. -/

/-- The three components as plain decimal numbers between points. -/
def dotted (major minor revision : UInt8) : String :=
  String.ofList
    (decimal major.toNat ++ '.' :: (decimal minor.toNat ++ '.' :: decimal revision.toNat))

/-- Read a text and write the version again. -/
def normalize (input : String) : Except ParseError String :=
  (parse input).map SystemVersion.text

/-- The low byte is not written. -/
theorem text_cleared (v : SystemVersion) : v.cleared.text = v.text := by
  have major : v.cleared.major.toNat = v.major.toNat := by
    rw [toNat_major, toNat_major, toNat_cleared]
    omega
  have minor : v.cleared.minor.toNat = v.minor.toNat := by
    rw [toNat_minor, toNat_minor, toNat_cleared]
    omega
  have revision : v.cleared.revision.toNat = v.revision.toNat := by
    rw [toNat_revision, toNat_revision, toNat_cleared]
    omega
  rw [text, text, chars, chars, major, minor, revision]

theorem text_ofParts (major minor revision : UInt8) :
    (ofParts major minor revision).text = dotted major minor revision := by
  have h₁ := major.toNat_lt
  have h₂ := minor.toNat_lt
  have h₃ := revision.toNat_lt
  have raw : (ofParts major minor revision).raw.toNat = _ := toNat_pack major minor revision
  have first : (ofParts major minor revision).major.toNat = major.toNat := by
    rw [toNat_major, raw]
    omega
  have second : (ofParts major minor revision).minor.toNat = minor.toNat := by
    rw [toNat_minor, raw]
    omega
  have third : (ofParts major minor revision).revision.toNat = revision.toNat := by
    rw [toNat_revision, raw]
    omega
  rw [text, chars, first, second, third]
  rfl

/-! ## §2. Reading and writing together. -/

/-- Versions whose low byte is clear are told apart by their texts. -/
theorem text_injOn : Set.InjOn text {v | v.LowByteClear} := by
  intro v hv w hw same
  have read : (Except.ok v : Except ParseError SystemVersion) = .ok w := by
    rw [← parse_text hv, ← parse_text hw, same]
  exact Except.ok.inj read

/-- Every spelling has the plain decimal one as its canonical form. -/
theorem normalize_eq_ok_iff {input canonical : String} :
    normalize input = .ok canonical ↔ ∃ major minor revision,
      Spells input major minor revision ∧ canonical = dotted major minor revision := by
  unfold normalize
  constructor
  · intro h
    cases read : parse input with
    | error e =>
        rw [read] at h
        cases h
    | ok v =>
        rw [read] at h
        cases h
        obtain ⟨major, minor, revision, spells, rfl⟩ := parse_eq_ok_iff_spells.mp read
        exact ⟨major, minor, revision, spells, text_ofParts major minor revision⟩
  · rintro ⟨major, minor, revision, spells, rfl⟩
    have read := parse_eq_ok_iff_spells.mpr ⟨major, minor, revision, spells, rfl⟩
    rw [read, ← text_ofParts]
    rfl

/-- The canonical form is left as it is. -/
theorem normalize_bind_normalize (input : String) :
    (normalize input).bind normalize = normalize input := by
  unfold normalize
  cases read : parse input with
  | error e => rfl
  | ok v =>
      -- what was read has a clear low byte and so reads back unchanged
      have again : parse v.text = .ok v := parse_text (lowByteClear_of_parse read)
      simp only [Except.map, Except.bind, again]

theorem decode_text (d : Dialect) (input : String) :
    Codec.version.decode d (.text input) = (parse input).mapError .version := by
  simp only [Codec.version, Codec.text, bind, Except.bind]
  cases parse input with
  | error e => rfl
  | ok v => rfl

theorem encode_cleared (v : SystemVersion) :
    Codec.version.encode v.cleared = Codec.version.encode v :=
  congrArg Document.text (text_cleared v)

theorem toJson_cleared (v : SystemVersion) :
    Codec.version.toJson v.cleared = Codec.version.toJson v :=
  congrArg Json.compact (encode_cleared v)

/-- **VERSIONS ARE READ AS THEY ARE SPELLED AND WRITTEN IN CANONICAL FORM.**

  · Exactly the spellings are read, each as the version of its components, and any other
    text is given back whole as the error.
  · The text of a version reads back as the version with its low byte cleared, so versions
    whose low byte is clear are told apart by their texts.
  · Reading and writing again turns every spelling into the plain decimal one, and leaves
    that as it is.
  · In documents of either notation a version is such a text, read and written the same
    way. -/
theorem parse_spellings_and_text :
    (∀ input v, parse input = .ok v ↔ ∃ major minor revision,
        Spells input major minor revision ∧ v = ofParts major minor revision)
    ∧ (∀ input e, parse input = .error e ↔
        e = ⟨input⟩ ∧ ∀ major minor revision, ¬Spells input major minor revision)
    ∧ (∀ v : SystemVersion, parse v.text = .ok v.cleared)
    ∧ Set.InjOn text {v | v.LowByteClear}
    ∧ (∀ input canonical, normalize input = .ok canonical ↔ ∃ major minor revision,
        Spells input major minor revision ∧ canonical = dotted major minor revision)
    ∧ (∀ input, (normalize input).bind normalize = normalize input)
    ∧ (∀ d input, Codec.version.decode d (.text input) = (parse input).mapError .version)
    ∧ (∀ d (v : SystemVersion), Codec.version.encode v = .text v.text
        ∧ Codec.version.decode d (Codec.version.encode v) = .ok v.cleared)
    ∧ (∀ v : SystemVersion, Codec.version.ofJson? (Codec.version.toJson v) = some v.cleared) := by
  refine ⟨fun _ _ => parse_eq_ok_iff_spells, fun _ _ => parse_eq_error_iff_not_spells,
    parse_text_eq, text_injOn, fun _ _ => normalize_eq_ok_iff, normalize_bind_normalize,
    decode_text, ?_, ?_⟩
  · intro d v
    refine ⟨rfl, ?_⟩
    rw [← encode_cleared]
    exact Codec.decode_version d (lowByteClear_cleared v)
  · intro v
    rw [← toJson_cleared]
    exact (Codec.survives_version (lowByteClear_cleared v)).ofJson?

end Horizon.SystemVersion
