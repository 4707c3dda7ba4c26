/-
  Horizon.Proofs.WallTime.Elapsed
  ───────────────────────────────
  **THE TIME OF DAY GOES BY ELAPSED TICKS ALONE.**

  The time is the date that was published last and the ticks since then, modulo 2^64.  So it
  stays as it is when the tick of the record and the clock are moved together, and moves with
  the date:

      record             clock      elapsed       time
      date, tick         now        now - tick    t
      date, tick + k     now + k    now - tick    t
      date + m, tick     now        now - tick    t + m

  Of the bus only the count and the slot that it selects have a say.  Main statements:

      dateTime_of_alike          what is elsewhere, the other slot too, does not matter
      alike_storeDate            nor does a publish that is under way
      goes_by_elapsed_ticks      two clocks, two images
-/
import Horizon.Console
import Horizon.Proofs.DateTime.History
import Horizon.WallTime

namespace Horizon

open Registers

namespace Image

/-! ## §1. The bytes that have a say. -/

/-- A stretch that does not wrap is an interval. -/
theorem within_iff {start a : UInt32} {count : Nat} (fits : start.toNat + count ≤ 2 ^ 32) :
    Within start count a ↔ start.toNat ≤ a.toNat ∧ a.toNat < start.toNat + count := by
  have small := a.toNat_lt
  unfold Within
  rw [UInt32.toNat_sub]
  omega

theorem within_add {start : UInt32} {count i : Nat} (fits : count ≤ 2 ^ 32) (hi : i < count) :
    Within start count (start + UInt32.ofNat i) := by
  have offset : start + UInt32.ofNat i - start = UInt32.ofNat i := by
    rw [UInt32.add_comm, UInt32.add_sub_cancel]
  unfold Within
  rw [offset, UInt32.toNat_ofNat_of_lt' (Nat.lt_of_lt_of_le hi fits)]
  exact hi

/-- The address is one of the count or of the slot that it selects. -/
def Active (image : Image) (a : UInt32) : Prop :=
  Within selectorAt 4 a ∨ Within (recordAt image.bus.selector) 16 a

/-- The second image has the count of the first and the slot that it selects, byte for byte;
elsewhere it may hold anything. -/
def Alike (image other : Image) : Prop :=
  ∀ a, image.Active a → other.byte a = image.byte a

variable {image other : Image}

theorem selector_of_alike (alike : image.Alike other) :
    other.bus.selector = image.bus.selector := by
  show other.word selectorAt = image.word selectorAt
  rw [← UInt32.toNat_inj, toNat_word, toNat_word]
  exact FlatMemory.value_congr selectorAt 4 fun i hi =>
    alike _ (.inl (within_add (by decide) hi))

/-- Either half of a slot is the same if the slot is. -/
theorem double_of_slot {slot : UInt32} (same : ∀ a, Within slot 16 a → other.byte a = image.byte a)
    (half : Nat) (inside : half ≤ 8) :
    other.bus.double (slot + UInt32.ofNat half)
      = image.bus.double (slot + UInt32.ofNat half) := by
  rw [← UInt64.toNat_inj, toNat_double, toNat_double]
  refine FlatMemory.value_congr _ 8 fun i hi => same _ ?_
  have offset : slot + UInt32.ofNat half + UInt32.ofNat i = slot + UInt32.ofNat (half + i) := by
    rw [UInt32.add_assoc, UInt32.ofNat_add]
  rw [offset]
  exact within_add (by decide) (by omega)

/-- **Only the count and the slot that it selects decide** which record readers get. -/
theorem dateTime_of_alike (alike : image.Alike other) : other.bus.dateTime = image.bus.dateTime := by
  have slot : ∀ a, Within (recordAt image.bus.selector) 16 a → other.byte a = image.byte a :=
    fun a within => alike a (.inr within)
  have date := double_of_slot slot 0 (by decide)
  rw [show UInt32.ofNat 0 = 0 from rfl, UInt32.add_zero] at date
  have tick := double_of_slot slot 8 (by decide)
  rw [Bus.dateTime_eq, Bus.dateTime_eq, selector_of_alike alike]
  exact recordIn_congr date tick

theorem Alike.refl (image : Image) : image.Alike image := fun _ _ => rfl

theorem Alike.trans {last : Image} (first : image.Alike other) (second : other.Alike last) :
    image.Alike last := by
  intro a active
  have active' : other.Active a := by
    unfold Active
    rw [selector_of_alike first]
    exact active
  exact (second a active').trans (first a active)

/-! ## §2. What leaves these bytes as they are. -/

/-- The slot that is not selected lies apart from these bytes. -/
theorem Active.not_within_other {a : UInt32} (active : image.Active a) :
    ¬Within (recordAt (image.bus.selector + 1)) 16 a := by
  have count : selectorAt.toNat = 0x1FF81000 := rfl
  have even : evenRecordAt.toNat = 0x1FF81020 := rfl
  have odd : oddRecordAt.toNat = 0x1FF81040 := rfl
  unfold Active at active
  rcases recordAt_succ image.bus.selector with ⟨here, next⟩ | ⟨here, next⟩
  · rw [here, within_iff (by decide), within_iff (by decide)] at active
    rw [next, within_iff (by decide)]
    omega
  · rw [here, within_iff (by decide), within_iff (by decide)] at active
    rw [next, within_iff (by decide)]
    omega

/-- **A publish under way has no influence**: the date of the next record goes to the other
slot. -/
theorem alike_storeDate (image : Image) (next : DateTimeRecord) :
    image.Alike (image.storeDate (image.bus.selector + 1) next) := fun _ active =>
  byte_writeDouble_of_beyond image next.dateTime (not_within_halves active.not_within_other).1

/-- Its tick goes to the other slot as well. -/
theorem alike_storeTick (image : Image) (next : DateTimeRecord) :
    image.Alike (image.storeTick (image.bus.selector + 1) next) := fun _ active =>
  byte_writeDouble_of_beyond image next.updateTick (not_within_halves active.not_within_other).2

/-! ## §3. Published records. -/

/-- The record was published on some image, behind any others, and since then the count and
its slot have not changed. -/
def Published (image : Image) (record : DateTimeRecord) : Prop :=
  ∃ (start : Image) (earlier : List DateTimeRecord),
    (start.publishAll (earlier ++ [record])).Alike image

theorem published_publishAll (start : Image) (earlier : List DateTimeRecord)
    (record : DateTimeRecord) : (start.publishAll (earlier ++ [record])).Published record :=
  ⟨start, earlier, .refl _⟩

theorem published_publish (start : Image) (record : DateTimeRecord) :
    (start.publish record).Published record :=
  published_publishAll start [] record

theorem Published.of_alike {record : DateTimeRecord} (published : image.Published record)
    (alike : image.Alike other) : other.Published record := by
  obtain ⟨start, earlier, left⟩ := published
  exact ⟨start, earlier, left.trans alike⟩

/-- Readers get the record that was published last. -/
theorem Published.dateTime_eq {record : DateTimeRecord} (published : image.Published record) :
    image.bus.dateTime = record := by
  obtain ⟨start, earlier, left⟩ := published
  rw [dateTime_of_alike left, publishAll_concat, dateTime_publish]

end Image

/-! ## §4. Time. -/

namespace WallTime

/-- A tick that is moved along with the clock has no influence. -/
theorem atTick_moved (date tick reading k : UInt64) :
    atTick ⟨date, tick + k⟩ (reading + k) = atTick ⟨date, tick⟩ reading := by
  have elapsed : reading + k - (tick + k) = reading - tick := by grind
  unfold atTick
  dsimp only
  rw [elapsed]

/-- A date that is moved takes the time with it. -/
theorem atTick_add (date tick reading m : UInt64) :
    atTick ⟨date + m, tick⟩ reading = atTick ⟨date, tick⟩ reading + m := by
  unfold atTick
  dsimp only
  rw [UInt64.add_assoc, UInt64.add_comm m, UInt64.add_assoc]

section

variable {σ : Type} (clock : Supervisor (StateM σ)) (state : σ)

/-- The time is told from one reading of the clock. -/
theorem run_now (bus : Bus) :
    (now bus clock).run state
      = (atTick bus.dateTime (clock.ticks.run state).1, (clock.ticks.run state).2) := rfl

theorem run_unixNow (bus : Bus) :
    (unixNow bus clock).run state
      = (toUnix ((now bus clock).run state).1, (clock.ticks.run state).2) := rfl

/-- What is told is decided by the record that was published last. -/
theorem now_of_published {image : Image} {record : DateTimeRecord}
    (published : image.Published record) :
    ((now image.bus clock).run state).1 = atTick record (clock.ticks.run state).1 := by
  rw [run_now, published.dateTime_eq]

end

/-- **THE TIME OF DAY GOES BY ELAPSED TICKS ALONE**, modulo 2^64.  Whatever else two images
hold, and wherever two clocks come from:

  · If the tick of the second record is `k` ticks on and so is the second clock, both tell the
    same time, since 1900 and since 1970.
  · If both records are the same, a clock tells the same time from both images.
  · If the date of the second record is `m` milliseconds on, so is the time. -/
theorem goes_by_elapsed_ticks {σ τ : Type} (clock : Supervisor (StateM σ)) (state : σ)
    (clock' : Supervisor (StateM τ)) (state' : τ) (date tick : UInt64) (image image' : Image)
    (published : image.Published ⟨date, tick⟩) :
    (∀ k, image'.Published ⟨date, tick + k⟩ →
      (clock'.ticks.run state').1 = (clock.ticks.run state).1 + k →
        ((now image'.bus clock').run state').1 = ((now image.bus clock).run state).1
        ∧ ((unixNow image'.bus clock').run state').1 = ((unixNow image.bus clock).run state).1)
    ∧ (image'.Published ⟨date, tick⟩ →
        now image'.bus clock = now image.bus clock
        ∧ unixNow image'.bus clock = unixNow image.bus clock)
    ∧ (∀ m, image'.Published ⟨date + m, tick⟩ →
        ((now image'.bus clock).run state).1 = ((now image.bus clock).run state).1 + m) := by
  refine ⟨fun k moved reading => ?_, fun same => ?_, fun m moved => ?_⟩
  · have time : ((now image'.bus clock').run state').1 = ((now image.bus clock).run state).1 := by
      rw [now_of_published clock' state' moved, now_of_published clock state published, reading,
        atTick_moved]
    refine ⟨time, ?_⟩
    rw [run_unixNow, run_unixNow, time]
  · have record : image'.bus.dateTime = image.bus.dateTime := by
      rw [same.dateTime_eq, published.dateTime_eq]
    have time : now image'.bus clock = now image.bus clock := by
      unfold now
      rw [record]
    refine ⟨time, ?_⟩
    unfold unixNow
    rw [time]
  · rw [now_of_published clock state moved, now_of_published clock state published, atTick_add]

/-- A record whose tick is the greatest one and a clock that has wrapped since, on a page with
an earlier record, a count that has wrapped as well and a publish under way; the same record on
an empty page with its tick and the clock a hundred on; and a date one millisecond back. -/
theorem goes_by_elapsed_ticks_round_the_clock :
    let crowded := (Image.empty.writeWord selectorAt 0xFFFFFFFE).publishAll
      ([⟨1, 2⟩] ++ [⟨3913056000000, 0xFFFFFFFFFFFFFFFF⟩])
    let dated := crowded.storeDate (crowded.bus.selector + 1) ⟨5, 6⟩
    let image := dated.storeTick (dated.bus.selector + 1) ⟨5, 6⟩
    let moved := Image.empty.publish ⟨3913056000000, 0xFFFFFFFFFFFFFFFF + 100⟩
    let back := Image.empty.publish ⟨3913056000000 + 0xFFFFFFFFFFFFFFFF, 0xFFFFFFFFFFFFFFFF⟩
    let console := (Console.ofConfig {}).setClock 268111955
    let clock := Console.supervisor
    (image.Published ⟨3913056000000, 0xFFFFFFFFFFFFFFFF⟩
      ∧ ((now image.bus clock).run console).1 = 3913056001000)
    ∧ (moved.Published ⟨3913056000000, 0xFFFFFFFFFFFFFFFF + 100⟩
      ∧ (clock.ticks.run (console.advance 100)).1 = (clock.ticks.run console).1 + 100
      ∧ ((now moved.bus clock).run (console.advance 100)).1 = 3913056001000)
    ∧ (crowded.Published ⟨3913056000000, 0xFFFFFFFFFFFFFFFF⟩
      ∧ now crowded.bus clock = now image.bus clock)
    ∧ (back.Published ⟨3913056000000 + 0xFFFFFFFFFFFFFFFF, 0xFFFFFFFFFFFFFFFF⟩
      ∧ ((now back.bus clock).run console).1 = 3913056000999) := by
  intro crowded dated image moved back console clock
  have behind : crowded.Published ⟨3913056000000, 0xFFFFFFFFFFFFFFFF⟩ :=
    Image.published_publishAll _ [⟨1, 2⟩] _
  have underWay : image.Published ⟨3913056000000, 0xFFFFFFFFFFFFFFFF⟩ :=
    (behind.of_alike (crowded.alike_storeDate ⟨5, 6⟩)).of_alike (dated.alike_storeTick ⟨5, 6⟩)
  have shifted : moved.Published ⟨3913056000000, 0xFFFFFFFFFFFFFFFF + 100⟩ :=
    Image.published_publish _ _
  have earlier : back.Published ⟨3913056000000 + 0xFFFFFFFFFFFFFFFF, 0xFFFFFFFFFFFFFFFF⟩ :=
    Image.published_publish _ _
  -- from the greatest tick on it is a second of ticks and a hundred more
  have time : ((now image.bus clock).run console).1 = 3913056001000 := by
    rw [now_of_published clock console underWay]
    decide +kernel
  obtain ⟨shift, -, -⟩ := goes_by_elapsed_ticks clock console clock (console.advance 100)
    3913056000000 0xFFFFFFFFFFFFFFFF image moved underWay
  obtain ⟨-, same, -⟩ := goes_by_elapsed_ticks clock console clock console
    3913056000000 0xFFFFFFFFFFFFFFFF image crowded underWay
  obtain ⟨-, -, date⟩ := goes_by_elapsed_ticks clock console clock console
    3913056000000 0xFFFFFFFFFFFFFFFF image back underWay
  refine ⟨⟨underWay, time⟩, ⟨shifted, rfl, ?_⟩, ⟨behind, (same behind).1⟩, earlier, ?_⟩
  · rw [(shift 100 shifted rfl).1, time]
  · rw [date _ earlier, time]
    rfl

end WallTime

end Horizon
