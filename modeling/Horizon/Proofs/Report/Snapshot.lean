/-
  Horizon.Proofs.Report.Snapshot
  ──────────────────────────────
  **A REPORT IS ONE SNAPSHOT.**

  A supervisor may answer differently every time it is called, so that a report holds
  together only by the calls it is made of.  These are five, one after another:

      systemInfo 0 0 │ systemInfo 0 1 │ systemInfo 0 2 │ systemInfo 0 3 │ ticks
      all            │ application    │ system         │ base           │ both times

  Each row shows its own answer and no other, and both times come from the one tick.

  Main statements:

      collect_eq         a report is made of the answers and the tick, in any monad
      run_mapM_noted     which calls a list of queries takes
      collect_is_snapshot
-/
import Horizon.Proofs.Usage.Query
import Horizon.Report

namespace Horizon

/-! ## §1. Calls. -/

namespace Supervisor

/-- A call of a supervisor. -/
inductive Call where
  /-- The tick counter is read. -/
  | ticks
  /-- A query is made. -/
  | systemInfo (kind : UInt32) (param : Int32)
  deriving Repr, DecidableEq

/-- The call that asks for the bytes in use in a region. -/
def Call.ofRegion (region : MemRegion) : Call := .systemInfo memoryUsed region.raw.toInt32

section

variable {m : Type → Type} [Monad m]

/-- The same supervisor with a list of the calls that were made. -/
def noted (supervisor : Supervisor m) : Supervisor (StateT (List Call) m) where
  ticks := do
    modify (· ++ [.ticks])
    supervisor.ticks
  systemInfo kind param := do
    modify (· ++ [.systemInfo kind param])
    supervisor.systemInfo kind param

variable [LawfulMonad m] (supervisor : Supervisor m)

theorem run_ticks_noted (notes : List Call) :
    supervisor.noted.ticks.run notes = (·, notes ++ [.ticks]) <$> supervisor.ticks := by
  simp [noted]

theorem run_ask_noted (region : MemRegion) (notes : List Call) :
    (supervisor.noted.ask region).run notes
      = (·, notes ++ [.ofRegion region]) <$> supervisor.ask region := by
  simp [noted, ask, Call.ofRegion]

/-- Queries for regions, one after another, are as many calls in the same order. -/
theorem run_mapM_noted (regions : List MemRegion) (notes : List Call) :
    (regions.mapM supervisor.noted.ask).run notes
      = (·, notes ++ regions.map .ofRegion) <$> regions.mapM supervisor.ask := by
  induction regions generalizing notes with
  | nil => simp
  | cons region regions ih => simp [run_ask_noted, ih]

end

end Supervisor

/-! ## §2. Reports. -/

namespace SystemReport

/-- The report that answers for all rows and a tick make. -/
def ofAnswers (model : ConsoleModel) (bus : Bus) (answers : List (Except ResultCode Int64))
    (tick : UInt64) : SystemReport where
  model := model
  kernelVersion := bus.kernel
  firmVersion := bus.firm
  coreVersion := bus.coreVersion
  appMemType := bus.appMemType
  wifiStrength := bus.wifiStrength
  slider3d := bus.slider3d
  memory := List.zipWith (MemoryUsage.ofAnswer bus) MemRegion.overview answers
  timeMs := WallTime.atTick bus.dateTime tick
  unixTimeMs := WallTime.toUnix (WallTime.atTick bus.dateTime tick)

/-- Answers for the regions by name make rows for them by name. -/
theorem memory_ofAnswers (model : ConsoleModel) (bus : Bus)
    (answer : MemRegion → Except ResultCode Int64) (tick : UInt64) :
    (ofAnswers model bus (MemRegion.overview.map answer) tick).memory
      = MemRegion.overview.map fun region => .ofAnswer bus region (answer region) := rfl

section

variable {m : Type → Type} [Monad m] [LawfulMonad m] (model : ConsoleModel) (bus : Bus)
  (supervisor : Supervisor m)

/-- **A report is made of the answers to its queries and of one tick**, asked for in this
order. -/
theorem collect_eq :
    collect model bus supervisor
      = MemRegion.overview.mapM supervisor.ask >>= fun answers =>
          ofAnswers model bus answers <$> supervisor.ticks := by
  rw [collect, mapM_regionUsage_eq, bind_map_left]
  refine congrArg (MemRegion.overview.mapM supervisor.ask >>= ·) (funext fun answers => ?_)
  rw [WallTime.now, bind_assoc, map_eq_pure_bind]
  refine congrArg (supervisor.ticks >>= ·) (funext fun tick => ?_)
  rw [pure_bind]
  rfl

/-- **These are all calls that a report makes.** -/
theorem run_collect_noted (notes : List Supervisor.Call) :
    (collect model bus supervisor.noted).run notes
      = (·, notes ++ MemRegion.overview.map .ofRegion ++ [.ticks])
          <$> collect model bus supervisor := by
  rw [collect_eq, collect_eq, StateT.run_bind, Supervisor.run_mapM_noted]
  simp only [StateT.run_bind, StateT.run_pure, Supervisor.run_ticks_noted, map_eq_pure_bind,
    bind_assoc, pure_bind]

end

end SystemReport

/-! ## §3. Times. -/

/-- The time since 1970 is the one since 1900 less the years between, and zero before. -/
theorem WallTime.toInt_toUnix (milliseconds : UInt64) :
    ((toUnix milliseconds).toNat : Int)
      = max 0 ((milliseconds.toNat : Int) - 2208988800000) := by
  have epoch : unixEpoch.toNat = 2208988800000 := rfl
  unfold toUnix
  by_cases before : milliseconds < unixEpoch
  · rw [if_pos before]
    rw [UInt64.lt_iff_toNat_lt] at before
    show (0 : Int) = _
    omega
  · have after : unixEpoch ≤ milliseconds := UInt64.not_lt.mp before
    rw [if_neg before, UInt64.toNat_sub_of_le _ _ after]
    rw [UInt64.le_iff_toNat_le] at after
    omega

/-! ## §4. Any supervisor. -/

/-- **A REPORT IS ONE SNAPSHOT.**  Of any supervisor, in any state, a report takes four queries
for memory, for all regions and then for each of them, and the tick counter once behind
these, and makes no other call.  It has a row for each query in this order, each of which
reflects its own answer; and both of its times come from the one tick. -/
theorem SystemReport.collect_is_snapshot {σ : Type} (supervisor : Supervisor (StateM σ))
    (state : σ) (model : ConsoleModel) (bus : Bus) (notes : List Supervisor.Call) :
    let first := (supervisor.systemInfo 0 0).run state
    let second := (supervisor.systemInfo 0 1).run first.2
    let third := (supervisor.systemInfo 0 2).run second.2
    let fourth := (supervisor.systemInfo 0 3).run third.2
    let clock := supervisor.ticks.run fourth.2
    ∃ report all application system base,
      (collect model bus supervisor).run state = (report, clock.2)
      ∧ ((collect model bus supervisor.noted).run notes).run state
          = ((report, notes ++ [.systemInfo 0 0, .systemInfo 0 1, .systemInfo 0 2,
              .systemInfo 0 3, .ticks]), clock.2)
      ∧ report.memory = [all, application, system, base]
      ∧ all.Reflects bus .all first.1
      ∧ application.Reflects bus .application second.1
      ∧ system.Reflects bus .system third.1
      ∧ base.Reflects bus .base fourth.1
      ∧ report.timeMs = WallTime.atTick bus.dateTime clock.1
      ∧ (report.unixTimeMs.toNat : Int)
          = max 0 ((report.timeMs.toNat : Int) - 2208988800000) := by
  intro first second third fourth clock
  have collected : (collect model bus supervisor).run state
      = (ofAnswers model bus [first.1, second.1, third.1, fourth.1] clock.1, clock.2) := by
    rw [collect_eq]
    rfl
  refine ⟨ofAnswers model bus [first.1, second.1, third.1, fourth.1] clock.1,
    .ofAnswer bus .all first.1, .ofAnswer bus .application second.1,
    .ofAnswer bus .system third.1, .ofAnswer bus .base fourth.1, collected, ?_, rfl,
    MemoryUsage.reflects_ofAnswer bus .all first.1,
    MemoryUsage.reflects_ofAnswer bus .application second.1,
    MemoryUsage.reflects_ofAnswer bus .system third.1,
    MemoryUsage.reflects_ofAnswer bus .base fourth.1, rfl, ?_⟩
  · rw [run_collect_noted, StateT.run_map, collected, List.append_assoc]
    rfl
  · exact WallTime.toInt_toUnix _

/-- A supervisor that answers with a negative number, a failure, a number beyond a word and
the greatest word, and whose ticks are the calls so far. -/
def Supervisor.unsteady : Supervisor (StateM Nat) where
  ticks := do
    modify (· + 1)
    pure (UInt64.ofNat (← get))
  systemInfo _ _ := do
    modify (· + 1)
    match ← get with
    | 1 => pure (.ok (-1))
    | 2 => pure (.error ⟨0xD8E007ED⟩)
    | 3 => pure (.ok 4294967296)
    | _ => pure (.ok 4294967295)

/-- Three of its four answers count as nothing, and the fourth as it is. -/
theorem SystemReport.collect_is_snapshot_of_unsteady :
    let bus : Bus := ⟨fun _ => 0, fun _ => 16⟩
    ∃ report, (collect .old bus Supervisor.unsteady).run 0 = (report, 5)
      ∧ report.memory.map (·.used) = [0, 0, 0, 4294967295]
      ∧ report.timeMs = WallTime.atTick bus.dateTime 5 := by
  intro bus
  obtain ⟨report, all, application, system, base, run, -, rows, first, second, third, fourth,
    time, -⟩ := collect_is_snapshot Supervisor.unsteady 0 .old bus []
  refine ⟨report, run, ?_, time⟩
  have last : base.used = 4294967295 :=
    UInt32.toNat_inj.mp (Int.ofNat_inj.mp (fourth.used_of_word _ rfl (by decide) (by decide)))
  rw [rows, List.map_cons, List.map_cons, List.map_cons, List.map_cons, List.map_nil,
    first.used_of_no_word _ rfl (.inl (by decide)), second.used_of_failure _ rfl,
    third.used_of_no_word _ rfl (.inr (by decide)), last]

end Horizon
