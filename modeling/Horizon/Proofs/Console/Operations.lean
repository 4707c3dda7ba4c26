/-
  Horizon.Proofs.Console.Operations
  ─────────────────────────────────
  **HISTORIES OF A SIMULATED CONSOLE.**

  A console is moved on in time, made to fail, asked for speed and queried, in any order.
  Every operation has one part of the state to itself, and a query has none:

      operation                        clock    failure   flags          model, use
      advance, setClock                moves    kept      kept           kept
      failSystemInfo, clearFailure     kept     set       kept           kept
      configureCpu, (try)setSpeedup    kept     kept      set, New only  kept
      systemInfo                       kept     kept      kept           kept

  So after any history the failure is the one injected last, the flags are those requested
  last, and what a query answers follows from the failure and the settings alone:

      perform_snd           one operation
      run_eq                a whole history
      run_filter_injection  the same history without its failures
-/
import Horizon.Proofs.Console.Pages
import Horizon.Proofs.Console.Queries
import Horizon.Proofs.History
import Horizon.Speedup

namespace Horizon

namespace Console

/-! ## §1. Operations and their answers. -/

/-- One thing that is done with a console. -/
inductive Operation where
  /-- The clock moves on. -/
  | advance (ticks : UInt64)
  /-- The clock jumps. -/
  | setClock (ticks : UInt64)
  /-- Queries fail from now on. -/
  | failSystemInfo (code : ResultCode)
  /-- Queries succeed again. -/
  | clearFailure
  /-- Processor flags are applied. -/
  | configureCpu (flags : UInt8)
  /-- The fast or the usual state is asked for, without a look at the outcome. -/
  | setSpeedup (enable : Bool)
  /-- The fast or the usual state is asked for. -/
  | trySetSpeedup (enable : Bool)
  /-- A query. -/
  | systemInfo (kind : UInt32) (param : Int32)
  deriving DecidableEq

/-- What an operation answers. -/
inductive Answer where
  /-- Nothing. -/
  | done
  /-- Whether processor flags were applied. -/
  | configured (outcome : Except ResultCode Unit)
  /-- Whether the state that was asked for is in force. -/
  | requested (outcome : Except Fault Unit)
  /-- The answer to a query. -/
  | told (outcome : Except ResultCode Int64)

/-- Carry out an operation: its answer, and the console afterwards.  A request that is
refused leaves the console that made it. -/
def perform (console : Console) : Operation → Answer × Console
  | .advance ticks => (.done, console.advance ticks)
  | .setClock ticks => (.done, console.setClock ticks)
  | .failSystemInfo code => (.done, console.failSystemInfo code)
  | .clearFailure => (.done, console.clearFailure)
  | .configureCpu flags =>
    match console.configureCpu flags with
    | .ok after => (.configured (.ok ()), after)
    | .error code => (.configured (.error code), console)
  | .setSpeedup enable => (.done, console.setSpeedup enable)
  | .trySetSpeedup enable =>
    match console.trySetSpeedup enable with
    | .ok after => (.requested (.ok ()), after)
    | .error fault => (.requested (.error fault), console)
  | .systemInfo kind param =>
    let answered := (supervisor.systemInfo kind param).run console
    (.told answered.1, answered.2)

/-- The console after a history. -/
def run (console : Console) (history : List Operation) : Console :=
  history.foldl (fun console operation => (console.perform operation).2) console

namespace Operation

/-! ## §2. What an operation is about. -/

/-- What the clock shows after the operation. -/
def clock (now : UInt64) : Operation → UInt64
  | .advance ticks => now + ticks
  | .setClock ticks => ticks
  | _ => now

/-- The failure that the operation leaves behind, where it is about failures. -/
def injection? : Operation → Option (Option ResultCode)
  | .failSystemInfo code => some (some code)
  | .clearFailure => some none
  | _ => none

/-- The flags that the operation requests, where it is a request for speed. -/
def flags? : Operation → Option UInt8
  | .configureCpu flags => some flags
  | .setSpeedup enable => some (Speedup.flags enable)
  | .trySetSpeedup enable => some (Speedup.flags enable)
  | _ => none

end Operation

/-! ## §3. Requests for speed. -/

section

theorem model_eq_old_iff (console : Console) : console.model = .old ↔ ¬console.model = .new := by
  cases console.model <;> decide

variable {console : Console}

/-- The refusal of the Old model. -/
theorem configureCpu_of_old (old : console.model = .old) (flags : UInt8) :
    console.configureCpu flags
      = .error (.pack .permanent .notSupported 0x1C Description.notImplemented) := by
  rw [configureCpu, old]
  rfl

theorem configureCpu_of_new (new : console.model = .new) (flags : UInt8) :
    console.configureCpu flags = .ok { console with cpuFlags := flags } := by
  rw [configureCpu, new]
  rfl

theorem trySetSpeedup_of_old (old : console.model = .old) (enable : Bool) :
    console.trySetSpeedup enable
      = .error (.service "PTMSYSM_ConfigureNew3DSCPU"
          (.pack .permanent .notSupported 0x1C Description.notImplemented)) := by
  rw [trySetSpeedup, configureCpu_of_old old]

theorem trySetSpeedup_of_new (new : console.model = .new) (enable : Bool) :
    console.trySetSpeedup enable = .ok { console with cpuFlags := Speedup.flags enable } := by
  rw [trySetSpeedup, configureCpu_of_new new]

theorem setSpeedup_of_old (old : console.model = .old) (enable : Bool) :
    console.setSpeedup enable = console := by
  rw [setSpeedup, trySetSpeedup_of_old old]

theorem setSpeedup_of_new (new : console.model = .new) (enable : Bool) :
    console.setSpeedup enable = { console with cpuFlags := Speedup.flags enable } := by
  rw [setSpeedup, trySetSpeedup_of_new new]

end

variable (console : Console)

/-! ## §4. One operation, and a history of them. -/

/-- **ONE OPERATION** changes no more than its own part of the state. -/
theorem perform_snd (operation : Operation) :
    (console.perform operation).2
      = { console with
          clock := operation.clock console.clock
          failure := operation.injection?.getD console.failure
          cpuFlags :=
            if console.model = .new then operation.flags?.getD console.cpuFlags
            else console.cpuFlags } := by
  -- only a request for speed asks which model this is
  by_cases new : console.model = .new
  · rw [if_pos new]
    cases operation with
    | advance ticks => rfl
    | setClock ticks => rfl
    | failSystemInfo code => rfl
    | clearFailure => rfl
    | configureCpu flags => rw [perform, configureCpu_of_new new]; rfl
    | setSpeedup enable => rw [perform, setSpeedup_of_new new]; rfl
    | trySetSpeedup enable => rw [perform, trySetSpeedup_of_new new]; rfl
    | systemInfo kind param => rfl
  · have old : console.model = .old := (model_eq_old_iff console).mpr new
    rw [if_neg new]
    cases operation with
    | advance ticks => rfl
    | setClock ticks => rfl
    | failSystemInfo code => rfl
    | clearFailure => rfl
    | configureCpu flags => rw [perform, configureCpu_of_old old]; rfl
    | setSpeedup enable => rw [perform, setSpeedup_of_old old]; rfl
    | trySetSpeedup enable => rw [perform, trySetSpeedup_of_old old]; rfl
    | systemInfo kind param => rfl

/-- **A WHOLE HISTORY** leaves in each part what the last operation about it left there. -/
theorem run_eq (history : List Operation) :
    console.run history
      = { console with
          clock := history.foldl Operation.clock console.clock
          failure := (last? Operation.injection? history).getD console.failure
          cpuFlags :=
            if console.model = .new then (last? Operation.flags? history).getD console.cpuFlags
            else console.cpuFlags } := by
  induction history generalizing console with
  | nil =>
      show console = { console with
        cpuFlags := if console.model = .new then console.cpuFlags else console.cpuFlags }
      rw [ite_self]
  | cons operation history ih =>
      show (console.perform operation).2.run history = _
      rw [ih, perform_snd]
      simp only [last?_cons, Option.getD_or, List.foldl_cons]
      -- the model is the same throughout, so one case of the flags stays
      split <;> rfl

/-! ## §5. Failures do not reach beyond queries. -/

theorem perform_clearFailure {operation : Operation} (other : operation.injection? = none) :
    (console.clearFailure.perform operation).2 = (console.perform operation).2.clearFailure := by
  rw [perform_snd, perform_snd, other]
  rfl

theorem clearFailure_perform {operation : Operation} {failure : Option ResultCode}
    (about : operation.injection? = some failure) :
    (console.perform operation).2.clearFailure = console.clearFailure := by
  cases operation with
  | failSystemInfo code => rfl
  | clearFailure => rfl
  | advance ticks => exact nomatch about
  | setClock ticks => exact nomatch about
  | configureCpu flags => exact nomatch about
  | setSpeedup enable => exact nomatch about
  | trySetSpeedup enable => exact nomatch about
  | systemInfo kind param => exact nomatch about

/-- **A history without its injections** leaves the same console, but for the failure. -/
theorem run_filter_injection (history : List Operation) :
    console.clearFailure.run (history.filter (·.injection?.isNone))
      = (console.run history).clearFailure := by
  induction history generalizing console with
  | nil => rfl
  | cons operation history ih =>
      cases about : operation.injection? with
      | none =>
          rw [List.filter_cons_of_pos (by rw [about]; rfl)]
          show (console.clearFailure.perform operation).2.run _ = _
          rw [perform_clearFailure console about, ih]
          rfl
      | some failure =>
          rw [List.filter_cons_of_neg (by rw [about]; exact Bool.false_ne_true),
            ← clearFailure_perform console about, ih]
          rfl

end Console

/-! ## §6. Queries. -/

/-- The bytes behind a number that selects a region: of all regions together, modulo 2^32,
or of one of the three. -/
def RegionBytes.numbered (bytes : RegionBytes) : Nat → Nat
  | 0 => (bytes.application.toNat + bytes.system.toNat + bytes.base.toNat) % 2 ^ 32
  | 1 => bytes.application.toNat
  | 2 => bytes.system.toNat
  | _ => bytes.base.toNat

theorem RegionBytes.numbered_raw (bytes : RegionBytes) (region : MemRegion) :
    bytes.numbered region.raw.toNat = (bytes.count region).toNat := by
  cases region with
  | all => exact (RegionBytes.toNat_count_all bytes).symm
  | application => rfl
  | system => rfl
  | base => rfl

namespace MemRegion

theorem ofRaw?_eq_some_iff {n : UInt32} {region : MemRegion} :
    ofRaw? n = some region ↔ n = region.raw := by
  constructor
  · intro h
    cases region <;> grind [ofRaw?, raw]
  · rintro rfl
    cases region <;> decide

/-- The numbers that select a region, as signed words. -/
theorem exists_eq_raw_iff (param : Int32) :
    (∃ region : MemRegion, param = region.raw.toInt32) ↔ 0 ≤ param.toInt ∧ param.toInt ≤ 3 := by
  constructor
  · rintro ⟨region, rfl⟩
    cases region <;> decide
  · rintro ⟨lower, upper⟩
    have four : param.toInt = 0 ∨ param.toInt = 1 ∨ param.toInt = 2 ∨ param.toInt = 3 := by omega
    rcases four with h | h | h | h
    · exact ⟨.all, Int32.toInt_inj.mp (h.trans (by decide))⟩
    · exact ⟨.application, Int32.toInt_inj.mp (h.trans (by decide))⟩
    · exact ⟨.system, Int32.toInt_inj.mp (h.trans (by decide))⟩
    · exact ⟨.base, Int32.toInt_inj.mp (h.trans (by decide))⟩

end MemRegion

namespace Console

theorem queriedRegion?_eq_some_iff {param : Int32} {region : MemRegion} :
    queriedRegion? param = some region ↔ param = region.raw.toInt32 := by
  constructor
  · intro h
    unfold queriedRegion? at h
    split at h
    case isTrue =>
      rw [← MemRegion.ofRaw?_eq_some_iff.mp h]
      rfl
    case isFalse => exact nomatch h
  · rintro rfl
    exact queriedRegion?_raw region

/-- A query selects a known value: the use of memory, of all regions or of one. -/
def Known (kind : UInt32) (param : Int32) : Prop :=
  kind = 0 ∧ 0 ≤ param.toInt ∧ param.toInt ≤ 3

instance (kind : UInt32) (param : Int32) : Decidable (Known kind param) :=
  inferInstanceAs (Decidable (kind = 0 ∧ 0 ≤ param.toInt ∧ param.toInt ≤ 3))

section

variable {console : Console}

theorem systemInfo_of_injected {code : ResultCode} (injected : console.failure = some code)
    (kind : UInt32) (param : Int32) : console.systemInfo kind param = .error code := by
  rw [systemInfo, injected]

variable (clear : console.failure = none) {kind : UInt32} {param : Int32}

include clear

theorem exists_systemInfo_of_known (known : Known kind param) :
    ∃ answer, console.systemInfo kind param = .ok answer
      ∧ answer.toInt = console.used.numbered param.toInt.toNat := by
  obtain ⟨rfl, bounds⟩ := known
  obtain ⟨region, rfl⟩ := (MemRegion.exists_eq_raw_iff param).mpr bounds
  refine ⟨_, systemInfo_memoryUsed clear region, ?_⟩
  have number : region.raw.toInt32.toInt.toNat = region.raw.toNat := by cases region <;> decide
  have small := (console.used.count region).toNat_lt
  rw [number, RegionBytes.numbered_raw, Int64.toInt_ofNat_of_lt (by omega)]

theorem systemInfo_of_not_known (unknown : ¬Known kind param) :
    console.systemInfo kind param
      = .error (.pack .permanent .invalidArg 1 Description.invalidEnumValue) := by
  rw [systemInfo, clear]
  dsimp only
  by_cases used : kind = Supervisor.memoryUsed
  · have nothing : queriedRegion? param = none := by
      refine Option.eq_none_iff_forall_ne_some.mpr fun region h => unknown ⟨used, ?_⟩
      exact (MemRegion.exists_eq_raw_iff param).mp ⟨region, queriedRegion?_eq_some_iff.mp h⟩
    rw [if_pos used, nothing]
    rfl
  · rw [if_neg used]
    rfl

end

/-- Queries fail with a code, whatever they ask, just if that code was injected: a console
without a failure knows the use of all memory. -/
theorem systemInfo_fails_iff (console : Console) (code : ResultCode) :
    (∀ kind param, console.systemInfo kind param = .error code)
      ↔ console.failure = some code := by
  constructor
  · intro fails
    cases failure : console.failure with
    | none =>
        obtain ⟨answer, told, -⟩ :=
          @exists_systemInfo_of_known console failure 0 0 (by decide)
        exact nomatch told.symm.trans (fails 0 0)
    | some injected =>
        have told := (systemInfo_of_injected failure 0 0).symm.trans (fails 0 0)
        rw [Except.error.inj told]
  · exact systemInfo_of_injected

/-! ## §7. All parts, after any history. -/

/-- Every request for speed fails and changes nothing. -/
structure RefusesSpeed (console : Console) : Prop where
  configureCpu : ∀ flags, console.perform (.configureCpu flags)
    = (.configured (.error (.pack .permanent .notSupported 0x1C Description.notImplemented)),
        console)
  trySetSpeedup : ∀ enable, console.perform (.trySetSpeedup enable)
    = (.requested (.error (.service "PTMSYSM_ConfigureNew3DSCPU"
        (.pack .permanent .notSupported 0x1C Description.notImplemented))), console)
  setSpeedup : ∀ enable, console.perform (.setSpeedup enable) = (.done, console)

/-- Every request for speed is met: its flags are in force and nothing else changes. -/
structure GrantsSpeed (console : Console) : Prop where
  configureCpu : ∀ flags, console.perform (.configureCpu flags)
    = (.configured (.ok ()), { console with cpuFlags := flags })
  trySetSpeedup : ∀ enable, console.perform (.trySetSpeedup enable)
    = (.requested (.ok ()), { console with cpuFlags := Speedup.flags enable })
  setSpeedup : ∀ enable, console.perform (.setSpeedup enable)
    = (.done, { console with cpuFlags := Speedup.flags enable })

theorem refusesSpeed_of_old {console : Console} (old : console.model = .old) :
    console.RefusesSpeed where
  configureCpu flags := by rw [perform, configureCpu_of_old old]
  trySetSpeedup enable := by rw [perform, trySetSpeedup_of_old old]
  setSpeedup enable := by rw [perform, setSpeedup_of_old old]

theorem grantsSpeed_of_new {console : Console} (new : console.model = .new) :
    console.GrantsSpeed where
  configureCpu flags := by rw [perform, configureCpu_of_new new]
  trySetSpeedup enable := by rw [perform, trySetSpeedup_of_new new]
  setSpeedup enable := by rw [perform, setSpeedup_of_new new]

/-- **EVERY PART OF A CONSOLE ANSWERS TO ITS OWN OPERATIONS.**  After any history from the
settings

  · model and use of memory are those of the settings,
  · the Old model has no flags and refuses every request for speed; the New model has the
    flags that were requested last and grants every request,
  · a query changes nothing; all queries fail with a code just if it was injected last and
    not cleared, and otherwise the use of memory is told and nothing else is known,
  · leaving out all injections gives the same console but for the failure, and no operation
    touches a part that it is not about.
-/
theorem parts_answer_to_own_operations (c : SimulationConfig) (model : ConsoleModel)
    (history : List Operation) :
    let start := (ofConfig c).withModel model
    let console := start.run history
    console.model = model
    ∧ console.used = c.regionUsed
    ∧ (model = .old → console.cpuFlags = 0 ∧ console.RefusesSpeed)
    ∧ (model = .new →
        console.cpuFlags = (last? Operation.flags? history).getD 0 ∧ console.GrantsSpeed)
    ∧ (∀ kind param, console.perform (.systemInfo kind param)
        = (.told (console.systemInfo kind param), console))
    ∧ (∀ code, (∀ kind param, console.systemInfo kind param = .error code)
        ↔ last? Operation.injection? history = some (some code))
    ∧ ((∀ code, last? Operation.injection? history ≠ some (some code)) →
        ∀ kind param,
          (kind = 0 ∧ 0 ≤ param.toInt ∧ param.toInt ≤ 3 →
            ∃ answer, console.systemInfo kind param = .ok answer
              ∧ answer.toInt = c.regionUsed.numbered param.toInt.toNat)
          ∧ (¬(kind = 0 ∧ 0 ≤ param.toInt ∧ param.toInt ≤ 3) →
            console.systemInfo kind param
              = .error (.pack .permanent .invalidArg 1 Description.invalidEnumValue)))
    ∧ supervisor.ticks.run console = (history.foldl Operation.clock c.startTick, console)
    ∧ start.run (history.filter (·.injection?.isNone)) = { console with failure := none }
    ∧ (∀ operation,
        ((∀ ticks, operation ≠ .advance ticks ∧ operation ≠ .setClock ticks) →
          (console.perform operation).2.clock = console.clock)
        ∧ (operation.flags? = none →
          (console.perform operation).2.cpuFlags = console.cpuFlags)
        ∧ (operation.injection? = none →
          (console.perform operation).2.failure = console.failure)) := by
  intro start console
  have state := start.run_eq history
  have failure : console.failure = (last? Operation.injection? history).getD none :=
    congrArg Console.failure state
  have flags : console.cpuFlags
      = if model = .new then (last? Operation.flags? history).getD 0 else 0 :=
    congrArg Console.cpuFlags state
  have clock : console.clock = history.foldl Operation.clock c.startTick :=
    congrArg Console.clock state
  have sameModel : console.model = model := congrArg Console.model state
  have used : console.used = c.regionUsed := congrArg Console.used state
  refine ⟨sameModel, used, ?_, ?_, fun _ _ => rfl, ?_, ?_, ?_, ?_, ?_⟩
  · rintro rfl
    exact ⟨flags, refusesSpeed_of_old sameModel⟩
  · rintro rfl
    exact ⟨flags, grantsSpeed_of_new sameModel⟩
  · intro code
    rw [systemInfo_fails_iff, failure]
    cases last? Operation.injection? history with
    | none => exact ⟨nofun, nofun⟩
    | some injected => exact ⟨congrArg some, Option.some.inj⟩
  · intro clear kind param
    have clear : console.failure = none := by
      rw [failure]
      cases last : last? Operation.injection? history with
      | none => rfl
      | some injected =>
          cases injected with
          | none => rfl
          | some code => exact absurd last (clear code)
    refine ⟨fun known => ?_, systemInfo_of_not_known clear⟩
    rw [← used]
    exact exists_systemInfo_of_known clear known
  · rw [← clock]
    rfl
  · exact start.run_filter_injection history
  · intro operation
    have after := console.perform_snd operation
    refine ⟨fun other => ?_, fun other => ?_, fun other => ?_⟩
    · have still : operation.clock console.clock = console.clock := by
        cases operation with
        | advance ticks => exact absurd rfl (other ticks).1
        | setClock ticks => exact absurd rfl (other ticks).2
        | _ => rfl
      rw [after, still]
    · rw [after, other]
      exact ite_self _
    · rw [after, other]
      rfl

/-- Requests on either side of a failure that is injected and cleared: the Old model has no
flags, the New model those of the last request, be it for the fast or for the usual state,
and queries are answered again, save for one that asks for the number of processes. -/
theorem parts_answer_to_own_operations_of_both_models :
    let history := [.configureCpu 0xFF, .failSystemInfo ⟨0xD8E007ED⟩, .trySetSpeedup true,
      .clearFailure, .advance 5]
    let old := ((ofConfig {}).withModel .old).run history
    let new := ((ofConfig {}).withModel .new).run history
    let slow := ((ofConfig {}).withModel .new).run (history ++ [.setSpeedup false])
    (ConsoleModel.old = .old ∧ old.cpuFlags = 0)
    ∧ (ConsoleModel.new = .new ∧ new.cpuFlags = 3 ∧ slow.cpuFlags = 0)
    ∧ ((∀ code, last? Operation.injection? history ≠ some (some code))
      ∧ (((0 : UInt32) = 0 ∧ 0 ≤ (0 : Int32).toInt ∧ (0 : Int32).toInt ≤ 3)
        ∧ ∃ answer, new.systemInfo 0 0 = .ok answer ∧ answer.toInt = 46137344)
      ∧ (¬((26 : UInt32) = 0 ∧ 0 ≤ (0 : Int32).toInt ∧ (0 : Int32).toInt ≤ 3)
        ∧ new.systemInfo 26 0
          = .error (.pack .permanent .invalidArg 1 Description.invalidEnumValue)))
    ∧ ((∀ ticks, Operation.clearFailure ≠ .advance ticks ∧ Operation.clearFailure ≠ .setClock ticks)
      ∧ (new.perform .clearFailure).2.clock = new.clock) := by
  intro history old new slow
  obtain ⟨-, -, ofOld, -⟩ := parts_answer_to_own_operations {} .old history
  obtain ⟨-, -, -, ofNew, -, -, queries, -, -, frames⟩ :=
    parts_answer_to_own_operations {} .new history
  obtain ⟨-, -, -, ofSlow, -⟩ :=
    parts_answer_to_own_operations {} .new (history ++ [.setSpeedup false])
  have cleared : ∀ code, last? Operation.injection? history ≠ some (some code) := nofun
  have fast : new.cpuFlags = 3 := (ofNew rfl).1.trans (Speedup.flags_eq true)
  have usual : slow.cpuFlags = 0 := (ofSlow rfl).1.trans (Speedup.flags_eq false)
  refine ⟨⟨rfl, (ofOld rfl).1⟩, ⟨rfl, fast, usual⟩, ⟨cleared, ⟨by decide, ?_⟩, by decide, ?_⟩,
    fun ticks => ⟨nofun, nofun⟩, ?_⟩
  · exact (queries cleared 0 0).1 (by decide)
  · exact (queries cleared 26 0).2 (by decide)
  · exact (frames .clearFailure).1 fun ticks => ⟨nofun, nofun⟩

end Console

end Horizon
