/-
  Horizon.Proofs.Console.Queries
  ──────────────────────────────
  **WHAT A SIMULATED CONSOLE ANSWERS.**

  A query leaves the console as it is, so that whatever is read through several queries is
  read off one console.  While its queries are not made to fail, it answers each of them
  from its settings:

      regionUsage   the row of a region
      collect       a report, made of four rows and one time
-/
import Horizon.Console
import Horizon.Proofs.Report.Snapshot

namespace Horizon

namespace Console

theorem queriedRegion?_raw (region : MemRegion) :
    queriedRegion? region.raw.toInt32 = some region := by
  cases region <;> decide

/-! ## §1. Any console. -/

/-- What the memory table shows of a region: its size on the bus and its use in the
settings. -/
def row (console : Console) (bus : Bus) (region : MemRegion) : MemoryUsage :=
  ⟨region, bus.regionSize region, console.used.count region,
    bus.regionSize region - console.used.count region⟩

section

variable (console : Console)

/-- What a console answers when it is asked for the bytes in use in a region. -/
def answerFor (region : MemRegion) : Except ResultCode Int64 :=
  console.systemInfo Supervisor.memoryUsed region.raw.toInt32

/-- A query leaves the console as it is. -/
theorem run_ask_supervisor (region : MemRegion) :
    (supervisor.ask region).run console = (console.answerFor region, console) := rfl

/-- So queries one after another are all answered by the same console. -/
theorem run_mapM_ask_supervisor (regions : List MemRegion) :
    (regions.mapM supervisor.ask).run console = (regions.map console.answerFor, console) := by
  induction regions with
  | nil => rfl
  | cons region regions ih =>
      rw [List.mapM_cons, StateT.run_bind, run_ask_supervisor]
      show ((regions.mapM supervisor.ask) >>= fun answers =>
        (pure (console.answerFor region :: answers) : StateM Console _)).run console = _
      rw [StateT.run_bind, ih]
      rfl

theorem run_regionUsage_supervisor (bus : Bus) (region : MemRegion) :
    (regionUsage bus supervisor region).run console
      = (.ofAnswer bus region (console.answerFor region), console) := by
  rw [regionUsage_eq, StateT.run_map, run_ask_supervisor]
  rfl

theorem run_collect_supervisor (bus : Bus) (model : ConsoleModel) :
    (SystemReport.collect model bus supervisor).run console
      = (.ofAnswers model bus (MemRegion.overview.map console.answerFor) console.clock,
          console) := by
  rw [SystemReport.collect_eq, StateT.run_bind, run_mapM_ask_supervisor]
  rfl

end

/-! ## §2. A console that answers. -/

section

variable {console : Console} (h : console.failure = none) (bus : Bus)

include h

theorem systemInfo_memoryUsed (region : MemRegion) :
    console.systemInfo Supervisor.memoryUsed region.raw.toInt32
      = .ok (Int64.ofNat (console.used.count region).toNat) := by
  unfold systemInfo
  rw [h]
  dsimp only
  rw [if_pos rfl, queriedRegion?_raw]

/-- The answer counts as the use in the settings. -/
theorem counted_answerFor (region : MemRegion) :
    Supervisor.counted (console.answerFor region) = console.used.count region := by
  rw [answerFor, systemInfo_memoryUsed h, Supervisor.counted_word]

theorem ofAnswer_answerFor (region : MemRegion) :
    MemoryUsage.ofAnswer bus region (console.answerFor region) = console.row bus region := by
  rw [MemoryUsage.ofAnswer, counted_answerFor h]
  rfl

theorem regionUsage_supervisor (region : MemRegion) :
    (regionUsage bus supervisor region).run console = (console.row bus region, console) := by
  rw [run_regionUsage_supervisor, ofAnswer_answerFor h]

/-- **A report is read off one console**, which stays as it is. -/
theorem collect_supervisor (model : ConsoleModel) :
    (SystemReport.collect model bus supervisor).run console
      = ({ model
           kernelVersion := bus.kernel
           firmVersion := bus.firm
           coreVersion := bus.coreVersion
           appMemType := bus.appMemType
           wifiStrength := bus.wifiStrength
           slider3d := bus.slider3d
           memory := MemRegion.overview.map (console.row bus)
           timeMs := WallTime.atTick bus.dateTime console.clock
           unixTimeMs := WallTime.toUnix (WallTime.atTick bus.dateTime console.clock) },
          console) := by
  rw [run_collect_supervisor]
  have rows := SystemReport.memory_ofAnswers model bus console.answerFor console.clock
  simp only [ofAnswer_answerFor h] at rows
  rw [← rows]
  rfl

end

end Console

end Horizon
