/-
  Horizon.Schema.Console
  ──────────────────────
  **READINGS OF A CONSOLE IN DOCUMENTS.**

  Unlike settings these have no defaults: every field must be given.
-/
import Horizon.DateTime
import Horizon.Document.Decode
import Horizon.TickCounter
import Horizon.Usage
import Horizon.VersionRecord

namespace Horizon

namespace Codec

/-- Memory regions. -/
def memRegion : Codec MemRegion :=
  enumeration
    [("all", .all), ("application", .application), ("system", .system), ("base", .base)]
    MemRegion.text

/-- Size and use of a memory region. -/
def memoryUsageRecord : Record MemoryUsage where
  name := "MemoryUsage"
  fields :=
    [.of "region" memRegion (·.region) fun x u => { u with region := x },
     .of "size" word (·.size) fun x u => { u with size := x },
     .of "used" word (·.used) fun x u => { u with used := x },
     .of "free" word (·.free) fun x u => { u with free := x }]
  blank := ⟨.all, 0, 0, 0⟩
  complete := true

/-- Size and use of a memory region. -/
def memoryUsage : Codec MemoryUsage := memoryUsageRecord.codec

/-- Date and time records. -/
def dateTimeRecordRecord : Record DateTimeRecord where
  name := "DateTimeRecord"
  fields :=
    [.of "date_time" doubleWord (·.dateTime) fun x r => { r with dateTime := x },
     .of "update_tick" doubleWord (·.updateTick) fun x r => { r with updateTick := x }]
  blank := ⟨0, 0⟩
  complete := true

/-- Date and time records. -/
def dateTimeRecord : Codec DateTimeRecord := dateTimeRecordRecord.codec

/-- Tick counters. -/
def tickCounterRecord : Record TickCounter where
  name := "TickCounter"
  fields :=
    [.of "elapsed" doubleWord (·.elapsed) fun x c => { c with elapsed := x },
     .of "reference" doubleWord (·.reference) fun x c => { c with reference := x }]
  blank := {}
  complete := true

/-- Tick counters. -/
def tickCounter : Codec TickCounter := tickCounterRecord.codec

/-- Three bytes, as a list. -/
def threeBytes : Codec (UInt8 × UInt8 × UInt8) where
  decode d
    | .list items | .rows items =>
      match items with
      | a :: b :: c :: rest => do
        let bytes := (← byte.decode d a, ← byte.decode d b, ← byte.decode d c)
        if d = .json ∧ !rest.isEmpty then
          .error (.wrongLength items.length "fewer elements in array")
        else .ok bytes
      | short => do
        for item in short do
          let _ ← byte.decode d item
        .error (.wrongLength short.length "an array of length 3")
    | other => .error (.wrongType (other.found d) "an array of length 3")
  encode bytes := .list [byte.encode bytes.1, byte.encode bytes.2.1, byte.encode bytes.2.2]

/-- Version records. -/
def versionBinRecord : Record VersionBin where
  name := "VersionBin"
  fields :=
    [.of "build" byte (·.build) fun x r => { r with build := x },
     .of "minor" byte (·.minor) fun x r => { r with minor := x },
     .of "mainver" byte (·.mainver) fun x r => { r with mainver := x },
     .of "reserved_x3" byte (·.reserved3) fun x r => { r with reserved3 := x },
     .of "region" byte (·.region) fun x r => { r with region := x },
     .of "reserved_x5" threeBytes (·.reserved5) fun x r => { r with reserved5 := x }]
  blank := {}
  complete := true

/-- Version records. -/
def versionBin : Codec VersionBin := versionBinRecord.codec

/-- Both version records. -/
def systemVersionDataRecord : Record SystemVersionData where
  name := "SystemVersionData"
  fields :=
    [.of "nver" versionBin (·.nver) fun x s => { s with nver := x },
     .of "cver" versionBin (·.cver) fun x s => { s with cver := x }]
  blank := ⟨{}, {}⟩
  complete := true

/-- Both version records. -/
def systemVersionData : Codec SystemVersionData := systemVersionDataRecord.codec

/-- The names of the two version records. -/
def versionRecord : Codec VersionRecord :=
  enumeration [("nver", .nver), ("cver", .cver)] fun
    | .nver => "nver"
    | .cver => "cver"

/-- Regions of the system settings. -/
def systemRegion : Codec SystemRegion :=
  enumeration
    [("japan", .japan), ("usa", .usa), ("europe", .europe), ("australia", .australia),
     ("china", .china), ("korea", .korea), ("taiwan", .taiwan)]
    fun
    | .japan => "japan"
    | .usa => "usa"
    | .europe => "europe"
    | .australia => "australia"
    | .china => "china"
    | .korea => "korea"
    | .taiwan => "taiwan"

end Codec

end Horizon
