/-
  Horizon.Proofs.Clock.Drift
  ──────────────────────────
  **CONVERSIONS IN 128 BITS, IN ORDER, AND OVER MANY DURATIONS.**

  Each conversion multiplies before it divides.  Three facts on their whole domains:

      width    128 bits hold every sum and product on the way
      order    what is longer does not become shorter, past the cut at 64 bits too
      drift    n durations converted one by one fall short of their sum converted at
               once by at most n - 1 ticks, and never exceed it
-/
import Horizon.Proofs.Clock.Conversion

namespace Horizon

/-! ## §1. Words of 128 bits. -/

/-- A word of 128 bits. -/
abbrev Wide := BitVec 128

namespace Wide

/-- The sum of two words, if it fits one. -/
def add? (a b : Wide) : Option Wide :=
  if a.uaddOverflow b then none else some (a + b)

/-- The product of two words, if it fits one. -/
def mul? (a b : Wide) : Option Wide :=
  if a.umulOverflow b then none else some (a * b)

/-- The word in 64 bits; the greatest such word if it does not fit. -/
def narrow (a : Wide) : UInt64 :=
  if a.toNat < 2 ^ 64 then UInt64.ofNat a.toNat else UInt64.ofNat greatestWord

/-- Ticks as a duration, by checked steps on 128 bits. -/
def ticksToDuration? (ticks : UInt64) : Option Duration := do
  let product ← mul? (.ofNat 128 ticks.toNat) 1000000000
  return .ofWord (narrow (product / .ofNat 128 Clock.arm11))

/-- The ticks in a duration, by checked steps on 128 bits from its seconds and the
nanoseconds beyond them. -/
def durationToTicks? (d : Duration) : Option UInt64 := do
  let whole ← mul? (.ofNat 128 d.seconds) 1000000000
  let nanoseconds ← add? whole (.ofNat 128 d.subsecond)
  let product ← mul? nanoseconds (.ofNat 128 Clock.arm11)
  return narrow (product / 1000000000)

theorem toNat_ofNat_of_lt {n : Nat} (h : n < 2 ^ 128) : (BitVec.ofNat 128 n).toNat = n := by
  rw [BitVec.toNat_ofNat, Nat.mod_eq_of_lt h]

theorem exists_add? {a b : Wide} (fits : a.toNat + b.toNat < 2 ^ 128) :
    ∃ c, add? a b = some c ∧ c.toNat = a.toNat + b.toNat := by
  refine ⟨a + b, ?_, ?_⟩
  · have small : a.uaddOverflow b = false := decide_eq_false (Nat.not_le.mpr fits)
    rw [add?, small]
    rfl
  · rw [BitVec.toNat_add, Nat.mod_eq_of_lt fits]

theorem exists_mul? {a b : Wide} (fits : a.toNat * b.toNat < 2 ^ 128) :
    ∃ c, mul? a b = some c ∧ c.toNat = a.toNat * b.toNat := by
  refine ⟨a * b, ?_, ?_⟩
  · have small : a.umulOverflow b = false := decide_eq_false (Nat.not_le.mpr fits)
    rw [mul?, small]
    rfl
  · rw [BitVec.toNat_mul, Nat.mod_eq_of_lt fits]

theorem narrow_eq (a : Wide) : narrow a = UInt64.ofNat (min a.toNat greatestWord) := by
  unfold narrow
  split
  case isTrue fits =>
    have least : a.toNat ≤ greatestWord := Nat.le_of_lt_succ fits
    rw [Nat.min_eq_left least]
  case isFalse beyond =>
    have least : greatestWord ≤ a.toNat := Nat.le_trans (by decide) (Nat.not_lt.mp beyond)
    rw [Nat.min_eq_right least]

/-- **Ticks times the nanoseconds of a second fit 128 bits.** -/
theorem ticksToDuration?_eq (ticks : UInt64) :
    ticksToDuration? ticks = some (ticksToDuration ticks) := by
  have few := ticks.toNat_lt
  have count : (BitVec.ofNat 128 ticks.toNat).toNat = ticks.toNat := toNat_ofNat_of_lt (by omega)
  have second : (1000000000 : Wide).toNat = 10 ^ 9 := by decide
  have rate : (BitVec.ofNat 128 Clock.arm11).toNat = Clock.arm11 := by decide
  obtain ⟨product, run, value⟩ :=
    exists_mul? (a := .ofNat 128 ticks.toNat) (b := 1000000000) (by rw [count, second]; omega)
  rw [ticksToDuration?, run]
  show some (Duration.ofWord (narrow _)) = _
  rw [narrow_eq, BitVec.toNat_udiv, value, count, second, rate]
  rfl

/-- **The nanoseconds of the longest duration times the tick rate fit 128 bits.** -/
theorem durationToTicks?_eq (d : Duration) : durationToTicks? d = some (durationToTicks d) := by
  have long := d.bounded
  have split : d.seconds * 10 ^ 9 + d.subsecond = d.nanoseconds := Nat.div_add_mod' _ _
  have seconds : (BitVec.ofNat 128 d.seconds).toNat = d.seconds := toNat_ofNat_of_lt (by omega)
  have subsecond : (BitVec.ofNat 128 d.subsecond).toNat = d.subsecond :=
    toNat_ofNat_of_lt (by omega)
  have second : (1000000000 : Wide).toNat = 10 ^ 9 := by decide
  have rate : (BitVec.ofNat 128 Clock.arm11).toNat = Clock.arm11 := by decide
  have bound : d.nanoseconds * Clock.arm11 < 2 ^ 128 := by
    have value : Clock.arm11 = 268111856 := by decide
    rw [value]
    omega
  obtain ⟨whole, runWhole, valueWhole⟩ :=
    exists_mul? (a := .ofNat 128 d.seconds) (b := 1000000000) (by rw [seconds, second]; omega)
  rw [seconds, second] at valueWhole
  obtain ⟨nanoseconds, runSum, valueSum⟩ :=
    exists_add? (a := whole) (b := .ofNat 128 d.subsecond)
      (by rw [valueWhole, subsecond]; omega)
  rw [valueWhole, subsecond, split] at valueSum
  obtain ⟨product, runProduct, valueProduct⟩ :=
    exists_mul? (a := nanoseconds) (b := .ofNat 128 Clock.arm11)
      (by rw [valueSum, rate]; exact bound)
  rw [valueSum, rate] at valueProduct
  rw [durationToTicks?, runWhole, Option.bind_eq_bind, Option.bind_some, runSum,
    Option.bind_some, runProduct, Option.bind_some]
  show some (narrow _) = _
  rw [narrow_eq, BitVec.toNat_udiv, valueProduct, second]
  rfl

end Wide

/-! ## §2. Order. -/

/-- **More ticks are no less time.** -/
theorem ticksToDuration_mono {few many : UInt64} (h : few ≤ many) :
    (ticksToDuration few).nanoseconds ≤ (ticksToDuration many).nanoseconds := by
  rw [nanoseconds_ticksToDuration, nanoseconds_ticksToDuration]
  have quotients : few.toNat * 10 ^ 9 / Clock.arm11 ≤ many.toNat * 10 ^ 9 / Clock.arm11 :=
    Nat.div_le_div_right (Nat.mul_le_mul_right _ (UInt64.le_iff_toNat_le.mp h))
  omega

/-- **More time is no fewer ticks.** -/
theorem durationToTicks_mono {short long : Duration} (h : short.nanoseconds ≤ long.nanoseconds) :
    durationToTicks short ≤ durationToTicks long := by
  rw [UInt64.le_iff_toNat_le, toNat_durationToTicks, toNat_durationToTicks]
  have quotients : short.nanoseconds * Clock.arm11 / 10 ^ 9
      ≤ long.nanoseconds * Clock.arm11 / 10 ^ 9 :=
    Nat.div_le_div_right (Nat.mul_le_mul_right _ h)
  omega

/-! ## §3. Drift. -/

/-- The nanoseconds of durations together, without a limit. -/
def Duration.totalNanoseconds : List Duration → Nat
  | [] => 0
  | d :: ds => d.nanoseconds + totalNanoseconds ds

/-- The ticks of durations that are converted one by one, without a limit. -/
def ticksOneByOne : List Duration → Nat
  | [] => 0
  | d :: ds => (durationToTicks d).toNat + ticksOneByOne ds

/-- **What is dropped adds up**: from each duration a rest that is less than a tick. -/
theorem ticksOneByOne_bounds {ds : List Duration}
    (fits : Duration.totalNanoseconds ds * Clock.arm11 < 2 ^ 64 * 10 ^ 9) :
    ticksOneByOne ds * 10 ^ 9 ≤ Duration.totalNanoseconds ds * Clock.arm11
      ∧ Duration.totalNanoseconds ds * Clock.arm11 + ds.length
          ≤ (ticksOneByOne ds + ds.length) * 10 ^ 9 := by
  induction ds with
  | nil => exact ⟨Nat.zero_le _, Nat.le_of_eq rfl⟩
  | cons d ds ih =>
      rw [Duration.totalNanoseconds, Nat.add_mul] at fits ⊢
      rw [ticksOneByOne, List.length_cons]
      obtain ⟨lower, upper⟩ := ih (by omega)
      -- the first duration alone drops less than one tick
      have first := toNat_durationToTicks_of_lt (d := d) (by omega)
      have rest := Nat.div_add_mod' (d.nanoseconds * Clock.arm11) (10 ^ 9)
      have small : d.nanoseconds * Clock.arm11 % 10 ^ 9 < 10 ^ 9 := Nat.mod_lt _ (by decide)
      rw [← first] at rest
      omega

/-- **Converted one by one, durations never exceed their sum and fall short of it by less
than a tick each.** -/
theorem ticksOneByOne_between {ds : List Duration} {sum : Duration} (nonempty : ds ≠ [])
    (total : Duration.totalNanoseconds ds = sum.nanoseconds)
    (fits : sum.nanoseconds * Clock.arm11 < 2 ^ 64 * 10 ^ 9) :
    ticksOneByOne ds ≤ (durationToTicks sum).toNat
      ∧ (durationToTicks sum).toNat ≤ ticksOneByOne ds + (ds.length - 1) := by
  have atOnce := toNat_durationToTicks_of_lt fits
  rw [← total] at fits atOnce
  obtain ⟨lower, upper⟩ := ticksOneByOne_bounds fits
  have many : 0 < ds.length := List.length_pos_iff.mpr nonempty
  rw [atOnce]
  omega

/-! ## §4. The whole domains. -/

/-- **THE CONVERSIONS FIT 128 BITS, KEEP THE ORDER AND DRIFT BY LESS THAN A TICK EACH**: steps
that are checked against 128 bits never fail and give the same; longer stays longer or
equal, beyond what 64 bits hold too; and durations converted one by one come to their sum
converted at once, less at most one tick for each of them but one. -/
theorem conversions_fit_in_order_and_drift (few many : UInt64) (short long sum : Duration)
    (ds : List Duration) :
    Wide.ticksToDuration? few = some (ticksToDuration few)
    ∧ Wide.durationToTicks? short = some (durationToTicks short)
    ∧ (few ≤ many → (ticksToDuration few).nanoseconds ≤ (ticksToDuration many).nanoseconds)
    ∧ (short.nanoseconds ≤ long.nanoseconds → durationToTicks short ≤ durationToTicks long)
    ∧ (ds ≠ [] → Duration.totalNanoseconds ds = sum.nanoseconds →
        sum.nanoseconds * Clock.arm11 < 2 ^ 64 * 10 ^ 9 →
        ticksOneByOne ds ≤ (durationToTicks sum).toNat
        ∧ (durationToTicks sum).toNat ≤ ticksOneByOne ds + (ds.length - 1)) :=
  ⟨Wide.ticksToDuration?_eq few, Wide.durationToTicks?_eq short, ticksToDuration_mono,
    durationToTicks_mono, ticksOneByOne_between⟩

/-- Three nanoseconds are less than a tick, and nine are more than two: the drift of three
durations reaches its bound. -/
example : ticksOneByOne [.ofWord 3, .ofWord 3, .ofWord 3] = 0 ∧ durationToTicks (.ofWord 9) = 2 := by
  decide

/-- Two counts of ticks on either side of the cut at 64 bits, and three nanoseconds taken
three times. -/
theorem conversions_fit_in_order_and_drift_of_three :
    ((1 : UInt64) ≤ 0xFFFFFFFFFFFFFFFF
      ∧ (ticksToDuration 1).nanoseconds ≤ (ticksToDuration 0xFFFFFFFFFFFFFFFF).nanoseconds)
    ∧ ((Duration.ofWord 3).nanoseconds ≤ (Duration.ofWord 9).nanoseconds
      ∧ durationToTicks (.ofWord 3) ≤ durationToTicks (.ofWord 9))
    ∧ (([.ofWord 3, .ofWord 3, .ofWord 3] : List Duration) ≠ []
      ∧ Duration.totalNanoseconds [.ofWord 3, .ofWord 3, .ofWord 3] = (Duration.ofWord 9).nanoseconds
      ∧ (Duration.ofWord 9).nanoseconds * Clock.arm11 < 2 ^ 64 * 10 ^ 9
      ∧ (durationToTicks (.ofWord 9)).toNat
          ≤ ticksOneByOne [.ofWord 3, .ofWord 3, .ofWord 3] + 2) := by
  obtain ⟨-, -, ticks, time, drift⟩ := conversions_fit_in_order_and_drift 1 0xFFFFFFFFFFFFFFFF
    (.ofWord 3) (.ofWord 9) (.ofWord 9) [.ofWord 3, .ofWord 3, .ofWord 3]
  refine ⟨⟨by decide, ticks (by decide)⟩, ⟨by decide, time (by decide)⟩, nofun, rfl, by decide, ?_⟩
  exact (drift nofun rfl (by decide)).2

end Horizon
