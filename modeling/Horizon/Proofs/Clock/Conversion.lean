/-
  Horizon.Proofs.Clock.Conversion
  ───────────────────────────────
  **TICKS TO DURATIONS AND BACK.**

  There are fewer ticks than nanoseconds in a second, a little under four nanoseconds to a
  tick.  Either way round two divisions follow one another, and each drops a rest:

      ticks     ──  · 10^9 / rate  ──▶  duration  ──  · rate / 10^9  ──▶  ticks
      duration  ──  · rate / 10^9  ──▶  ticks     ──  · 10^9 / rate  ──▶  duration

  The first way loses one tick, or none where the first division leaves no rest; the second
  loses no more than four nanoseconds.  What does not fit 64 bits is cut off on the way:
  beyond that point the conversions are constant.
-/
import Mathlib.Algebra.Group.Nat.Defs
import Horizon.Clock

namespace Horizon

/-! ## §1. What the conversions give. -/

theorem toNat_ofNat_min_greatestWord (n : Nat) :
    (UInt64.ofNat (min n greatestWord)).toNat = min n greatestWord := by
  have fits : min n greatestWord < 2 ^ 64 :=
    Nat.lt_of_le_of_lt (Nat.min_le_right n greatestWord) (by decide)
  exact UInt64.toNat_ofNat_of_lt' fits

theorem nanoseconds_ticksToDuration (ticks : UInt64) :
    (ticksToDuration ticks).nanoseconds
      = min (ticks.toNat * 10 ^ 9 / Clock.arm11) greatestWord :=
  toNat_ofNat_min_greatestWord _

theorem toNat_durationToTicks (d : Duration) :
    (durationToTicks d).toNat = min (d.nanoseconds * Clock.arm11 / 10 ^ 9) greatestWord :=
  toNat_ofNat_min_greatestWord _

/-- A quotient fits 64 bits if the dividend stays below 2^64 divisors. -/
theorem div_le_greatestWord_iff {n divisor : Nat} (positive : 0 < divisor) :
    n / divisor ≤ greatestWord ↔ n < 2 ^ 64 * divisor := by
  have bound : n / divisor ≤ greatestWord ↔ n / divisor < 2 ^ 64 := by
    unfold greatestWord
    omega
  rw [bound, Nat.div_lt_iff_lt_mul positive]

namespace Clock

theorem arm11_pos : 0 < arm11 := by decide

/-- A tick is longer than a nanosecond. -/
theorem arm11_lt : arm11 < 10 ^ 9 := by decide

/-- The tick rate divides a number of nanoseconds per tick count just if the base clock
divides the count: the rest of the rate is a power of two that a second is a multiple of. -/
theorem arm11_dvd_iff (n : Nat) : arm11 ∣ n * 10 ^ 9 ↔ soc ∣ n := by
  have rate : arm11 = 16 * soc := by decide
  have second : n * 10 ^ 9 = 16 * (n * 62500000) := by omega
  have coprime : Nat.Coprime soc 62500000 := by decide
  rw [rate, second, Nat.mul_dvd_mul_iff_left (by decide)]
  exact ⟨coprime.dvd_of_dvd_mul_right, fun h => Nat.dvd_trans h (Nat.dvd_mul_right n _)⟩

end Clock

/-! ## §2. Two divisions. -/

section

variable {rate unit : Nat}

/-- **To the finer unit and back**: one is lost if the first division leaves a rest. -/
theorem scale_up_down (positive : 0 < rate) (finer : rate < unit) (n : Nat) :
    n * unit / rate * rate / unit = if rate ∣ n * unit then n else n - 1 := by
  have unitPositive : 0 < unit := Nat.lt_trans positive finer
  by_cases divides : rate ∣ n * unit
  · rw [if_pos divides, Nat.div_mul_cancel divides, Nat.mul_div_cancel n unitPositive]
  · rw [if_neg divides]
    -- the rest is less than the rate, and so less than one unit
    have rest : 0 < n * unit % rate := Nat.pos_of_ne_zero fun h => divides (Nat.dvd_of_mod_eq_zero h)
    have small : n * unit % rate < rate := Nat.mod_lt _ positive
    have split : n * unit / rate * rate + n * unit % rate = n * unit := Nat.div_add_mod' _ _
    have nonzero : 0 < n := by
      refine Nat.pos_of_ne_zero fun h => divides ?_
      rw [h, Nat.zero_mul]
      exact Nat.dvd_zero rate
    have before : (n - 1) * unit + unit = n * unit := by
      rw [← Nat.succ_mul, Nat.succ_eq_add_one, Nat.sub_add_cancel nonzero]
    refine Nat.div_eq_of_lt_le ?_ ?_
    · omega
    · rw [Nat.sub_add_cancel nonzero]
      omega

/-- To the coarser unit and back never gains. -/
theorem scale_down_up_le (positive : 0 < rate) (n : Nat) : n * rate / unit * unit / rate ≤ n := by
  have back : n * rate / unit * unit ≤ n * rate := Nat.div_mul_le_self _ _
  calc n * rate / unit * unit / rate
      ≤ n * rate / rate := Nat.div_le_div_right back
    _ = n := Nat.mul_div_cancel n positive

/-- **To the coarser unit and back**: what is lost is at most the coarser unit, rounded up. -/
theorem le_scale_down_up {most : Nat} (positive : 0 < rate) (unitPositive : 0 < unit)
    (length : unit ≤ most * rate + 1) (n : Nat) :
    n ≤ n * rate / unit * unit / rate + most := by
  have split : n * rate / unit * unit + n * rate % unit = n * rate := Nat.div_add_mod' _ _
  have small : n * rate % unit < unit := Nat.mod_lt _ unitPositive
  have less : (n - most) * rate ≤ n * rate / unit * unit := by
    rw [Nat.sub_mul]
    omega
  have kept : n - most ≤ n * rate / unit * unit / rate := (Nat.le_div_iff_mul_le positive).mpr less
  omega

end

/-! ## §3. There and back. -/

theorem le_greatestWord_iff (ticks : UInt64) :
    ticks.toNat * 10 ^ 9 / Clock.arm11 ≤ greatestWord
      ↔ ticks.toNat * 10 ^ 9 < 2 ^ 64 * Clock.arm11 :=
  div_le_greatestWord_iff Clock.arm11_pos

/-- The ticks in a duration are the quotient as long as that fits 64 bits. -/
theorem toNat_durationToTicks_of_lt {d : Duration}
    (fits : d.nanoseconds * Clock.arm11 < 2 ^ 64 * 10 ^ 9) :
    (durationToTicks d).toNat = d.nanoseconds * Clock.arm11 / 10 ^ 9 := by
  rw [toNat_durationToTicks, Nat.min_eq_left ((div_le_greatestWord_iff (by decide)).mpr fits)]

/-- A duration of 64 bits of nanoseconds has fewer ticks than those, so they fit as well. -/
theorem toNat_durationToTicks_of_le {d : Duration} (h : d.nanoseconds ≤ greatestWord) :
    (durationToTicks d).toNat = d.nanoseconds * Clock.arm11 / 10 ^ 9 := by
  have below : d.nanoseconds < 2 ^ 64 := Nat.lt_of_le_of_lt h (by decide)
  exact toNat_durationToTicks_of_lt (Nat.mul_lt_mul'' below Clock.arm11_lt)

theorem nanoseconds_ticksToDuration_le (ticks : UInt64) :
    (ticksToDuration ticks).nanoseconds ≤ greatestWord := by
  rw [nanoseconds_ticksToDuration]
  exact Nat.min_le_right _ _

/-- Ticks that become a duration and ticks again, in numbers alone. -/
theorem toNat_durationToTicks_ticksToDuration (ticks : UInt64) :
    (durationToTicks (ticksToDuration ticks)).toNat
      = min (ticks.toNat * 10 ^ 9 / Clock.arm11) greatestWord * Clock.arm11 / 10 ^ 9 := by
  rw [toNat_durationToTicks_of_le (nanoseconds_ticksToDuration_le ticks),
    nanoseconds_ticksToDuration]

theorem nanoseconds_ticksToDuration_durationToTicks_le (d : Duration) :
    (ticksToDuration (durationToTicks d)).nanoseconds ≤ d.nanoseconds := by
  rw [nanoseconds_ticksToDuration, toNat_durationToTicks]
  calc min (min (d.nanoseconds * Clock.arm11 / 10 ^ 9) greatestWord * 10 ^ 9 / Clock.arm11)
        greatestWord
      ≤ min (d.nanoseconds * Clock.arm11 / 10 ^ 9) greatestWord * 10 ^ 9 / Clock.arm11 :=
        Nat.min_le_left _ _
    _ ≤ d.nanoseconds * Clock.arm11 / 10 ^ 9 * 10 ^ 9 / Clock.arm11 :=
        Nat.div_le_div_right (Nat.mul_le_mul_right _ (Nat.min_le_left _ _))
    _ ≤ d.nanoseconds := scale_down_up_le Clock.arm11_pos _

/-- Four nanoseconds are longer than a tick. -/
theorem sub_ticksToDuration_durationToTicks_le {d : Duration}
    (h : d.nanoseconds ≤ greatestWord) :
    d.nanoseconds - (ticksToDuration (durationToTicks d)).nanoseconds ≤ 4 := by
  have back : d.nanoseconds * Clock.arm11 / 10 ^ 9 * 10 ^ 9 / Clock.arm11 ≤ d.nanoseconds :=
    scale_down_up_le Clock.arm11_pos _
  have near : d.nanoseconds ≤ d.nanoseconds * Clock.arm11 / 10 ^ 9 * 10 ^ 9 / Clock.arm11 + 4 :=
    le_scale_down_up Clock.arm11_pos (by decide) (by decide) _
  rw [nanoseconds_ticksToDuration, toNat_durationToTicks_of_le h,
    Nat.min_eq_left (Nat.le_trans back h)]
  omega

/-- **THE CONVERSIONS INVERT EACH OTHER UP TO A KNOWN TRUNCATION.**  Of ticks whose duration
fits 64 bits of nanoseconds one is lost, and none if the base clock divides them; of more
ticks a constant is left, and it is no more than they were.  Of a duration nothing is
gained, and at most four nanoseconds are lost if it fits 64 bits of them. -/
theorem conversions_invert_up_to_truncation (ticks : UInt64) (d : Duration) :
    (ticks.toNat * 10 ^ 9 < 2 ^ 64 * Clock.arm11 →
      (ticksToDuration ticks).nanoseconds = ticks.toNat * 10 ^ 9 / Clock.arm11
      ∧ (durationToTicks (ticksToDuration ticks)).toNat
          = if Clock.soc ∣ ticks.toNat then ticks.toNat else ticks.toNat - 1)
    ∧ (2 ^ 64 * Clock.arm11 ≤ ticks.toNat * 10 ^ 9 →
      (durationToTicks (ticksToDuration ticks)).toNat = (2 ^ 64 - 1) * Clock.arm11 / 10 ^ 9
      ∧ (2 ^ 64 - 1) * Clock.arm11 / 10 ^ 9 ≤ ticks.toNat)
    ∧ (ticksToDuration (durationToTicks d)).nanoseconds ≤ d.nanoseconds
    ∧ (d.nanoseconds ≤ 2 ^ 64 - 1 →
      d.nanoseconds - (ticksToDuration (durationToTicks d)).nanoseconds ≤ 4) := by
  refine ⟨?_, ?_, nanoseconds_ticksToDuration_durationToTicks_le d,
    sub_ticksToDuration_durationToTicks_le⟩
  · intro fits
    have whole := Nat.min_eq_left ((le_greatestWord_iff ticks).mpr fits)
    refine ⟨?_, ?_⟩
    · rw [nanoseconds_ticksToDuration, whole]
    · rw [toNat_durationToTicks_ticksToDuration, whole,
        scale_up_down Clock.arm11_pos Clock.arm11_lt]
      simp only [Clock.arm11_dvd_iff]
  · intro beyond
    have cut : min (ticks.toNat * 10 ^ 9 / Clock.arm11) greatestWord = 2 ^ 64 - 1 := by
      have many : ¬ ticks.toNat * 10 ^ 9 / Clock.arm11 ≤ greatestWord := fun h =>
        Nat.not_lt.mpr beyond ((le_greatestWord_iff ticks).mp h)
      rw [Nat.min_eq_right (Nat.le_of_not_le many)]
      rfl
    refine ⟨?_, ?_⟩
    · rw [toNat_durationToTicks_ticksToDuration, cut]
    · have less : (2 ^ 64 - 1) * Clock.arm11 ≤ ticks.toNat * 10 ^ 9 :=
        Nat.le_trans (Nat.mul_le_mul_right _ (by decide)) beyond
      calc (2 ^ 64 - 1) * Clock.arm11 / 10 ^ 9
          ≤ ticks.toNat * 10 ^ 9 / 10 ^ 9 := Nat.div_le_div_right less
        _ = ticks.toNat := Nat.mul_div_cancel _ (by decide)

/-- The bound of four nanoseconds is reached: seven of them are one tick and a rest, and a
tick alone is three of them and a rest. -/
example : (ticksToDuration (durationToTicks ⟨7, by decide⟩)).nanoseconds = 3 := by decide

/-- One tick, which is lost; the base clock's ticks, which are kept; the greatest count, which
is cut off; and seven nanoseconds. -/
theorem conversions_invert_up_to_truncation_at_the_ends :
    ((1 : UInt64).toNat * 10 ^ 9 < 2 ^ 64 * Clock.arm11
      ∧ (durationToTicks (ticksToDuration 1)).toNat = 0)
    ∧ ((16756991 : UInt64).toNat * 10 ^ 9 < 2 ^ 64 * Clock.arm11
      ∧ (durationToTicks (ticksToDuration 16756991)).toNat = 16756991)
    ∧ (2 ^ 64 * Clock.arm11 ≤ (0xFFFFFFFFFFFFFFFF : UInt64).toNat * 10 ^ 9
      ∧ (durationToTicks (ticksToDuration 0xFFFFFFFFFFFFFFFF)).toNat
          = (2 ^ 64 - 1) * Clock.arm11 / 10 ^ 9)
    ∧ (7 ≤ 2 ^ 64 - 1
      ∧ 7 - (ticksToDuration (durationToTicks ⟨7, by decide⟩)).nanoseconds ≤ 4) := by
  have one := conversions_invert_up_to_truncation 1 ⟨7, by decide⟩
  have base := conversions_invert_up_to_truncation 16756991 ⟨7, by decide⟩
  have greatest := conversions_invert_up_to_truncation 0xFFFFFFFFFFFFFFFF ⟨7, by decide⟩
  refine ⟨⟨by decide, ?_⟩, ⟨by decide, ?_⟩, ⟨by decide, ?_⟩, ⟨by decide, ?_⟩⟩
  · rw [(one.1 (by decide)).2, if_neg (by decide)]
    rfl
  · rw [(base.1 (by decide)).2, if_pos (by decide)]
    rfl
  · exact (greatest.2.1 (by decide)).1
  · exact one.2.2.2 (by decide)

end Horizon
