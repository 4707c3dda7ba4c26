/-
  Horizon.DateTime
  ────────────────
  **THE DATE AND TIME RECORDS OF THE SHARED PAGE.**

  The kernel keeps two records and a count of updates whose lowest bit selects the
  active one.  A publish fills the inactive record and then steps the count.  A reader
  reads the count, the record it selects and the count again, and starts over if the
  count has changed, so that it never returns a record that was replaced meanwhile:

      reader    count │ four words of the record │ count
      writer    date  │ tick                     │ count

  A reader is a program over any way to read a word.  Here it reads a bus that may change
  between any two of its reads, and the address of every word it reads is noted.
-/
import Horizon.Registers
import Horizon.Bus.Image

namespace Horizon

open Registers

/-! ## §1. Records. -/

/-- A date and the tick at which it was written. -/
structure DateTimeRecord where
  /-- Milliseconds since the beginning of 1900. -/
  dateTime : UInt64
  /-- The tick counter at that time. -/
  updateTick : UInt64
  deriving Repr, DecidableEq, Inhabited

/-- The record that a count of updates selects. -/
def recordAt (selector : UInt32) : UInt32 :=
  if selector &&& 1 = 0 then evenRecordAt else oddRecordAt

/-! ## §2. Publishing. -/

namespace Image

/-- Fill in the date of the record that the count is about to select. -/
def storeDate (image : Image) (next : UInt32) (record : DateTimeRecord) : Image :=
  image.writeDouble (recordAt next) record.dateTime

/-- Fill in the tick of the record that the count is about to select. -/
def storeTick (image : Image) (next : UInt32) (record : DateTimeRecord) : Image :=
  image.writeDouble (recordAt next + 8) record.updateTick

/-- Make the record active by stepping the count. -/
def activate (image : Image) (next : UInt32) : Image :=
  image.writeWord selectorAt next

/-- Publish a record: fill the inactive one, then make it the active one. -/
def publish (image : Image) (record : DateTimeRecord) : Image :=
  let next := image.bus.selector + 1
  ((image.storeDate next record).storeTick next record).activate next

/-- Publish records one after another. -/
def publishAll (image : Image) (records : List DateTimeRecord) : Image :=
  records.foldl publish image

end Image

/-! ## §3. Reading. -/

/-- One attempt to read the active record. -/
structure ReadAttempt where
  /-- The count before the record was read. -/
  opening : UInt32
  /-- The record as read. -/
  record : DateTimeRecord
  /-- The count after the record was read. -/
  closing : UInt32
  deriving Repr, DecidableEq

/-- The record was not replaced while it was read, as far as the count tells. -/
def ReadAttempt.settled (attempt : ReadAttempt) : Bool :=
  attempt.opening == attempt.closing

section Reader

variable {m : Type → Type} [Monad m] (word : UInt32 → m UInt32)

/-- Read a 64-bit value as two words, the low one first. -/
def readDouble (address : UInt32) : m UInt64 := do
  let low ← word address
  let high ← word (address + 4)
  return Bus.joinWords low high

/-- Make one attempt: read the count, the record it selects and the count again. -/
def ReadAttempt.read : m ReadAttempt := do
  let opening ← word selectorAt
  let address := recordAt opening
  let dateTime ← readDouble word address
  let updateTick ← readDouble word (address + 8)
  let closing ← word selectorAt
  return { opening, record := { dateTime, updateTick }, closing }

/-- Make attempts up to the first that is settled, at most `fuel` of them. -/
def readUntilSettled : (fuel : Nat) → m (List ReadAttempt)
  | 0 => return []
  | fuel + 1 => do
    let attempt ← ReadAttempt.read word
    if attempt.settled then return [attempt]
    let rest ← readUntilSettled fuel
    return attempt :: rest

end Reader

/-- Read a word of a bus that changes between the reads, and note its address; `view i` is
the bus at the `i`-th read, from zero on, and as many reads were made as are noted. -/
def notedWord (view : Nat → Bus) (address : UInt32) : StateM (List UInt32) UInt32 := do
  let notes ← get
  set (notes ++ [address])
  return (view notes.length).word address

section View

variable (view : Nat → Bus)

/-- The attempt that makes the first reads. -/
def ReadAttempt.run : ReadAttempt :=
  ((ReadAttempt.read (notedWord view)).run []).1

/-- The attempts of a reader up to the first that is settled, at most `fuel` of them. -/
def readAttempts (fuel : Nat) : List ReadAttempt :=
  ((readUntilSettled (notedWord view) fuel).run []).1

/-- The addresses of all reads that these attempts make. -/
def readAddresses (fuel : Nat) : List UInt32 :=
  ((readUntilSettled (notedWord view) fuel).run []).2

end View

/-- The active record of a bus at rest: nothing changes between the reads, so the first
attempt is settled. -/
def Bus.dateTime (bus : Bus) : DateTimeRecord :=
  (ReadAttempt.run fun _ => bus).record

/-! ## §4. A reader among publishes. -/

/-- A record that is published right after a reader's `after`-th read, counted from 1. -/
structure ScheduledPublish where
  /-- The number of reads that come first. -/
  after : Nat
  /-- The record. -/
  record : DateTimeRecord
  deriving Repr, DecidableEq

/-- The image after so many reads, with every publish due by then carried out; those due
at the same read come in the order of the schedule. -/
def Image.afterReads (image : Image) (schedule : List ScheduledPublish) : Nat → Image
  | 0 => image
  | reads + 1 =>
    let due := schedule.filter (·.after == reads + 1)
    (image.afterReads schedule reads).publishAll (due.map (·.record))

/-- What a reader among publishes comes to. -/
structure RaceOutcome where
  /-- The record it returns. -/
  record : DateTimeRecord
  /-- The addresses of all its reads. -/
  trace : List UInt32
  /-- The image it leaves behind. -/
  image : Image

/-- Read the active record while publishes fall between the reads.  Every attempt that
fails takes a publish, so one more attempt than there are publishes is enough. -/
def Image.race (image : Image) (schedule : List ScheduledPublish) : Option RaceOutcome :=
  let view reads := (image.afterReads schedule reads).bus
  let trace := readAddresses view (schedule.length + 1)
  match (readAttempts view (schedule.length + 1)).getLast? with
  | none => none
  | some last =>
    some
      { record := last.record
        trace
        image := image.afterReads schedule trace.length }

end Horizon
