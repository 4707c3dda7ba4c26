/-
  Horizon.Proofs.Report.Rendering
  ───────────────────────────────
  **WHICH REPORTS CAN BE SHOWN.**

  As JSON a report shows its times as numbers, whatever they are.  As text it shows a date,
  and the calendar ends with the year 9999:

      time shown           as JSON     as text
      before the end       success     success
      from the end on      success     the text up to the time, and the run breaks off

  The time is the one of the settings and the milliseconds since their tick.  No check of
  the settings looks at either, so that settings alone may lead past the end.
-/
import Horizon.Probe
import Horizon.Proofs.Console.Pages
import Horizon.Proofs.Console.Queries
import Horizon.Proofs.Settings.RoundTrip

namespace Horizon

/-! ## §1. The end of the calendar. -/

/-- The first millisecond of the year 10000, counted from the beginning of 1900. -/
def WallTime.endOfCalendar : UInt64 := 255611289600000

theorem Calendar.timestamp?_isSome_iff (milliseconds : UInt64) :
    (timestamp? milliseconds).isSome ↔ milliseconds.toNat < 1000 * endOfTime := by
  unfold timestamp?
  dsimp only
  by_cases early : milliseconds.toNat / 1000 < endOfTime
  · rw [if_pos early]
    simp only [Option.isSome_some, true_iff]
    omega
  · rw [if_neg early]
    simp only [Option.isSome_none, Bool.false_eq_true, false_iff]
    omega

/-- Counted from 1970 the calendar ends at the same moment. -/
theorem WallTime.toUnix_lt_iff (milliseconds : UInt64) :
    (toUnix milliseconds).toNat < 1000 * Calendar.endOfTime ↔ milliseconds < endOfCalendar := by
  have span : Calendar.endOfTime = 253402300800 := rfl
  have last : endOfCalendar.toNat = unixEpoch.toNat + 1000 * Calendar.endOfTime := rfl
  rw [UInt64.lt_iff_toNat_lt, last]
  unfold toUnix
  by_cases before : milliseconds < unixEpoch
  · rw [if_pos before]
    rw [UInt64.lt_iff_toNat_lt] at before
    show 0 < 1000 * Calendar.endOfTime ↔ _
    omega
  · have after : unixEpoch ≤ milliseconds := UInt64.not_lt.mp before
    rw [if_neg before, UInt64.toNat_sub_of_le _ _ after]
    rw [UInt64.le_iff_toNat_le] at after
    omega

/-- A report has a text if and only if its time is within the calendar; otherwise all
there is of it is its heading. -/
theorem SystemReport.text_cases (r : SystemReport) (milliseconds : UInt64)
    (unix : r.unixTimeMs = WallTime.toUnix milliseconds) :
    (milliseconds < WallTime.endOfCalendar ∧ ∃ text, r.text = .ok text)
    ∨ (¬milliseconds < WallTime.endOfCalendar ∧ r.text = .error r.heading) := by
  have within := Calendar.timestamp?_isSome_iff r.unixTimeMs
  rw [unix, WallTime.toUnix_lt_iff, ← unix] at within
  unfold text
  cases shown : Calendar.timestamp? r.unixTimeMs with
  | none =>
      refine .inr ⟨?_, rfl⟩
      intro early
      have some := within.mpr early
      rw [shown] at some
      cases some
  | some time =>
      rw [shown] at within
      exact .inl ⟨within.mp rfl, _, rfl⟩

/-! ## §2. Reports of settings. -/

/-- Print something and end. -/
def Probe.Session.printing {m : Type → Type} [Monad m] (session : Session m)
    (printed : String) (ending : Ending) : m Ending := do
  session.host.print printed
  pure ending

/-- The report of a console on the register pages of the settings. -/
def PlatformConfig.report (config : PlatformConfig) (console : Console) : SystemReport :=
  ((SystemReport.collect config.model (Image.ofConfig config.simulation).bus
    Console.supervisor).run console).1

/-- The time that the settings come to at a tick. -/
def SimulationConfig.timeAt (c : SimulationConfig) (tick : UInt64) : UInt64 :=
  WallTime.atTick ⟨c.dateTimeMs, c.startTick⟩ tick

/-- At the start it is the time of the settings. -/
theorem SimulationConfig.timeAt_startTick (c : SimulationConfig) :
    c.timeAt c.startTick = c.dateTimeMs := by
  have none : WallTime.elapsedMilliseconds 0 = 0 := by decide +kernel
  unfold timeAt WallTime.atTick
  dsimp only
  rw [UInt64.sub_self, none, UInt64.add_zero]

namespace PlatformConfig

variable (config : PlatformConfig) {console : Console}

theorem unixTimeMs_report (answers : console.failure = none) :
    (config.report console).unixTimeMs
      = WallTime.toUnix (config.simulation.timeAt console.clock) := by
  unfold report
  rw [Console.collect_supervisor answers, Image.dateTime_ofConfig]
  rfl

section

variable (console) {m : Type → Type} [Monad m] (session : Probe.Session m)

theorem info_json : Probe.info session config console true
    = session.printing (Probe.jsonText (config.report console).document) .success := rfl

variable {console} {text : String}

theorem info_of_text (shown : (config.report console).text = .ok text) :
    Probe.info session config console false = session.printing text .success := by
  unfold report at shown
  unfold Probe.info
  simp only [shown, Bool.false_eq_true, if_false]
  rfl

theorem info_of_no_text (broken : (config.report console).text = .error text) :
    Probe.info session config console false = session.printing text .aborted := by
  unfold report at broken
  unfold Probe.info
  simp only [broken, Bool.false_eq_true, if_false]
  rfl

end

/-- **WHEN A REPORT CAN BE SHOWN**: for any settings, and at any tick of a console that
answers queries, the report has a text if and only if the time of the settings, moved on
by the milliseconds since their tick, is within the calendar.  The probe prints it as JSON
in any case; as text it prints that text, or without one the heading, and breaks off. -/
theorem report_text_iff {m : Type → Type} [Monad m] (session : Probe.Session m)
    (answers : console.failure = none) :
    let report := config.report console
    let early := config.simulation.timeAt console.clock < WallTime.endOfCalendar
    ((∃ text, report.text = .ok text) ↔ early)
    ∧ Probe.info session config console true
      = session.printing (Probe.jsonText report.document) .success
    ∧ (early → ∃ text, report.text = .ok text
      ∧ Probe.info session config console false = session.printing text .success)
    ∧ (¬early →
      Probe.info session config console false = session.printing report.heading .aborted) := by
  intro report early
  have json := info_json config console session
  -- only the text asks for the calendar
  rcases SystemReport.text_cases _ _ (unixTimeMs_report config answers) with
    ⟨within, text, shown⟩ | ⟨late, broken⟩
  · have printed := info_of_text config session shown
    exact ⟨⟨fun _ => within, fun _ => ⟨text, shown⟩⟩, json,
      fun _ => ⟨text, shown, printed⟩, fun late => absurd within late⟩
  · have none : ¬∃ text, report.text = .ok text := by
      rintro ⟨text, shown⟩
      rw [broken] at shown
      cases shown
    exact ⟨⟨fun shown => absurd shown none, fun within => absurd within late⟩, json,
      fun within => absurd within late, fun _ => info_of_no_text config session broken⟩

/-- Settings whose clock starts with the year 10000. -/
def distant : PlatformConfig := { simulation := { dateTimeMs := WallTime.endOfCalendar } }

/-- Their time is past the calendar from the start. -/
theorem late_distant : ¬distant.simulation.timeAt (Console.ofConfig distant.simulation).clock
    < WallTime.endOfCalendar := by
  rw [show (Console.ofConfig distant.simulation).clock = distant.simulation.startTick from rfl,
    SimulationConfig.timeAt_startTick]
  decide

/-- Right at the start such settings are shown as JSON, and as text up to the time. -/
theorem report_text_iff_of_distant :
    let console := Console.ofConfig distant.simulation
    console.failure = none
    ∧ ∀ (m : Type → Type) [Monad m] (session : Probe.Session m),
        Probe.info session distant console true
          = session.printing (Probe.jsonText (distant.report console).document) .success
        ∧ Probe.info session distant console false
          = session.printing (distant.report console).heading .aborted := by
  intro console
  have answers : console.failure = none := rfl
  refine ⟨answers, fun m _ session => ?_⟩
  obtain ⟨-, whole, -, broken⟩ := report_text_iff distant session answers
  exact ⟨whole, broken late_distant⟩

/-- A text of settings that is accepted and whose report has no text. -/
theorem no_report_text_of_year_10000 :
    ofToml "[simulation]\ndatetime_ms = 255611289600000\n" = .ok distant
    ∧ ¬∃ text, (distant.report (Console.ofConfig distant.simulation)).text = .ok text := by
  refine ⟨by decide +kernel, ?_⟩
  rintro ⟨text, shown⟩
  have answers : (Console.ofConfig distant.simulation).failure = none := rfl
  rcases SystemReport.text_cases _ _ (unixTimeMs_report distant answers) with
    ⟨early, -⟩ | ⟨-, broken⟩
  · exact late_distant early
  · rw [broken] at shown
    cases shown

end PlatformConfig

end Horizon
