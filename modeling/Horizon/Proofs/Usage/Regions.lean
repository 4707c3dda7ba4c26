/-
  Horizon.Proofs.Usage.Regions
  ────────────────────────────
  **THE REGIONS ADD UP TO ALL OF THEM.**

  For all regions together the sizes are added up on the bus and the bytes in use on the
  console, each in word arithmetic; what is free is left to the table, as a difference in
  each row.  The differences then add up as well, modulo 2^32:

      region        size         used         free
      application   a            x            a - x
      system        b            y            b - y
      base          c            z            c - z
      all           a + b + c    x + y + z    (a + b + c) - (x + y + z)

  A query that fails counts as no use.  While a failure is injected it is the whole column
  `used` that is zero, and so the table still adds up.
-/
import Horizon.Proofs.Console.Operations
import Horizon.Proofs.Usage.Query

namespace Horizon

/-! ## §1. Tables. -/

namespace MemoryUsage

/-- Each column of a table adds up modulo 2^32, and each row does. -/
structure AddUp (row : MemRegion → MemoryUsage) : Prop where
  size : (row .all).size.toNat = MemRegion.total (fun region => (row region).size) % 2 ^ 32
  used : (row .all).used.toNat = MemRegion.total (fun region => (row region).used) % 2 ^ 32
  free : (row .all).free.toNat = MemRegion.total (fun region => (row region).free) % 2 ^ 32
  rest : ∀ region,
    ((row region).free.toNat + (row region).used.toNat) % 2 ^ 32 = (row region).size.toNat

/-- If the use adds up, so does the whole table. -/
theorem addUp_ofUsed (bus : Bus) (used : MemRegion → UInt32)
    (sum : used .all = used .application + used .system + used .base) :
    AddUp fun region => ofUsed bus region (used region) where
  size := RegionBytes.toNat_count_all bus.regionSizes
  used := by
    show (used .all).toNat = _
    rw [sum]
    exact RegionBytes.toNat_count_all ⟨used .application, used .system, used .base⟩
  free := by
    have differences : bus.regionSize .all - used .all
        = (bus.regionSize .application - used .application)
          + (bus.regionSize .system - used .system) + (bus.regionSize .base - used .base) := by
      have sizes : bus.regionSize .all
          = bus.regionSize .application + bus.regionSize .system + bus.regionSize .base := rfl
      rw [sum, sizes]
      grind
    show (bus.regionSize .all - used .all).toNat = _
    rw [differences]
    exact RegionBytes.toNat_count_all ⟨_, _, _⟩
  rest region := by
    show ((bus.regionSize region - used region).toNat + (used region).toNat) % 2 ^ 32 = _
    rw [← UInt32.toNat_add, UInt32.sub_add_cancel]
    rfl

end MemoryUsage

/-! ## §2. Consoles. -/

namespace Console

variable {console : Console}

/-- While queries fail, no use is counted. -/
theorem counted_answerFor_of_injected {code : ResultCode} (injected : console.failure = some code)
    (region : MemRegion) : Supervisor.counted (console.answerFor region) = 0 := by
  rw [answerFor, systemInfo_of_injected injected, Supervisor.counted_error]

/-- What is counted for all regions is the sum of what is counted for each, whether queries
fail or not. -/
theorem counted_answerFor_all (console : Console) :
    Supervisor.counted (console.answerFor .all)
      = Supervisor.counted (console.answerFor .application)
        + Supervisor.counted (console.answerFor .system)
        + Supervisor.counted (console.answerFor .base) := by
  cases failure : console.failure with
  | none =>
      simp only [counted_answerFor failure]
      rfl
  | some code =>
      simp only [counted_answerFor_of_injected failure]
      rfl

/-- **THE REGIONS ADD UP**, on any bus and for a console in any state, after any history: the
row of all regions is the sum of the other three, modulo 2^32, in each of its columns, and
in each row what is free and what is used make up the size.  What is free is the same by
itself as in the row, and a report has these very rows.

While a failure is injected no row shows any use; otherwise each shows that of the
settings. -/
theorem regions_add_up (bus : Bus) (start : Console) (history : List Operation) :
    let console := start.run history
    let failure := (last? Operation.injection? history).getD start.failure
    let row := fun region => ((regionUsage bus supervisor region).run console).1
    MemoryUsage.AddUp row
    ∧ (∀ region,
        (row region).region = region
        ∧ (row region).size = bus.regionSize region
        ∧ (regionUsage bus supervisor region).run console = (row region, console)
        ∧ (regionFree bus supervisor region).run console = ((row region).free, console))
    ∧ (∀ model, ((SystemReport.collect model bus supervisor).run console).1.memory
        = MemRegion.overview.map row)
    ∧ (∀ code, failure = some code →
        ∀ region, (row region).used = 0 ∧ (row region).free = (row region).size)
    ∧ (failure = none → ∀ region, (row region).used = start.used.count region) := by
  intro console failure row
  have state : console = _ := start.run_eq history
  have failureNow : console.failure = failure := congrArg Console.failure state
  have usedNow : console.used = start.used := by rw [state]
  have rows (region : MemRegion) :
      (regionUsage bus supervisor region).run console
        = (.ofAnswer bus region (console.answerFor region), console) :=
    run_regionUsage_supervisor console bus region
  have row_eq : row = fun region =>
      .ofUsed bus region (Supervisor.counted (console.answerFor region)) :=
    funext fun region => congrArg Prod.fst (rows region)
  refine ⟨?_, fun region => ⟨?_, ?_, ?_, ?_⟩, fun model => ?_, fun code injected region => ?_,
    fun clear region => ?_⟩
  · rw [row_eq]
    exact MemoryUsage.addUp_ofUsed bus _ console.counted_answerFor_all
  · rw [row_eq]
    rfl
  · rw [row_eq]
    rfl
  · rw [rows, row_eq]
    rfl
  · rw [regionFree_eq, StateT.run_map, rows, row_eq]
    rfl
  · rw [run_collect_supervisor, row_eq]
    exact SystemReport.memory_ofAnswers model bus console.answerFor console.clock
  · have unused : row region = .ofUsed bus region 0 := by
      rw [row_eq]
      exact congrArg (MemoryUsage.ofUsed bus region)
        (counted_answerFor_of_injected (failureNow.trans injected) region)
    rw [unused]
    exact ⟨rfl, UInt32.sub_zero _⟩
  · rw [row_eq]
    show Supervisor.counted (console.answerFor region) = _
    rw [counted_answerFor (failureNow.trans clear), usedNow]

/-- Three sizes of 3 GiB, whose sum is taken modulo 2^32: with a failure that was injected no
use is shown, and once it is cleared that of the settings is. -/
theorem regions_add_up_of_three_giants :
    let bus : Bus := ⟨fun _ => 0, fun _ => 0xC0000000⟩
    let start := ofConfig {}
    let failing := [.failSystemInfo ⟨0xD8E007ED⟩, .advance 5, .systemInfo 0 3]
    let cleared := failing ++ [.clearFailure]
    let row := fun history region =>
      ((regionUsage bus supervisor region).run (start.run history)).1
    ((last? Operation.injection? failing).getD start.failure = some ⟨0xD8E007ED⟩
      ∧ MemoryUsage.AddUp (row failing)
      ∧ (row failing .all).used = 0 ∧ (row failing .all).free = 0x40000000)
    ∧ ((last? Operation.injection? cleared).getD start.failure = none
      ∧ MemoryUsage.AddUp (row cleared)
      ∧ (row cleared .all).used = 46137344) := by
  intro bus start failing cleared row
  obtain ⟨sums, shown, -, unused, -⟩ := regions_add_up bus start failing
  obtain ⟨sumsAgain, -, -, -, settings⟩ := regions_add_up bus start cleared
  have injected := unused ⟨0xD8E007ED⟩ rfl .all
  have size : bus.regionSize .all = 0x40000000 := by decide
  have used : start.used.count .all = 46137344 := by decide
  refine ⟨⟨rfl, sums, injected.1, ?_⟩, rfl, sumsAgain, (settings rfl .all).trans used⟩
  exact injected.2.trans ((shown .all).2.1.trans size)

end Console

end Horizon
