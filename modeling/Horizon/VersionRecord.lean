/-
  Horizon.VersionRecord
  ─────────────────────
  **THE VERSION RECORDS ON STORAGE.**

  Two records of eight bytes hold the version of the whole system: NVer the network update
  version and the letter of the region, CVer the version that the system settings show.
  They are read in this order, and the first that cannot be read decides.
-/
import Horizon.ResultCode

namespace Horizon

/-! ## §1. Records. -/

/-- The contents of one record. -/
structure VersionBin where
  /-- The build number. -/
  build : UInt8 := 0
  /-- The minor version. -/
  minor : UInt8 := 0
  /-- The major version in CVer, the network update version in NVer. -/
  mainver : UInt8 := 0
  /-- Reserved. -/
  reserved3 : UInt8 := 0
  /-- The letter of the region. -/
  region : UInt8 := 0
  /-- Reserved. -/
  reserved5 : UInt8 × UInt8 × UInt8 := (0, 0, 0)
  deriving Repr, DecidableEq, Inhabited

namespace VersionBin

/-- The length of a record. -/
def size : Nat := 8

/-- The record at the start of some bytes, whatever follows it. -/
def ofBytes? : List UInt8 → Option VersionBin
  | build :: minor :: mainver :: reserved3 :: region :: b5 :: b6 :: b7 :: _ =>
    some ⟨build, minor, mainver, reserved3, region, (b5, b6, b7)⟩
  | _ => none

/-- The record as stored. -/
def bytes (r : VersionBin) : List UInt8 :=
  [r.build, r.minor, r.mainver, r.reserved3, r.region,
   r.reserved5.1, r.reserved5.2.1, r.reserved5.2.2]

/-- The letter of the region as a character. -/
def regionLetter (r : VersionBin) : Char := Char.ofNat r.region.toNat

end VersionBin

/-- The regions a console can be set to. -/
inductive SystemRegion where
  | japan
  | usa
  | europe
  /-- Uses the records of Europe. -/
  | australia
  | china
  | korea
  | taiwan
  deriving Repr, DecidableEq, Inhabited

/-- The number of a region in the system settings. -/
def SystemRegion.raw : SystemRegion → UInt8
  | .japan => 0
  | .usa => 1
  | .europe => 2
  | .australia => 3
  | .china => 4
  | .korea => 5
  | .taiwan => 6

/-- The two records. -/
inductive VersionRecord where
  | nver
  | cver
  deriving Repr, DecidableEq, Inhabited

namespace VersionRecord

/-- The record's name. -/
def text : VersionRecord → String
  | .nver => "NVer"
  | .cver => "CVer"

/-- The archive that holds the record on a console of some region. -/
def titleId (record : VersionRecord) (region : SystemRegion) : UInt64 :=
  match record with
  | .cver => 0x000400DB00017302
  | .nver =>
    match region with
    | .japan => 0x000400DB00016202
    | .usa => 0x000400DB00016302
    | .europe => 0x000400DB00016102
    | .australia => 0x000400DB00016102
    | .china => 0x000400DB00016402
    | .korea => 0x000400DB00016502
    | .taiwan => 0x000400DB00016602

end VersionRecord

/-! ## §2. Failures. -/

/-- Why a record could not be read. -/
inductive VersionError where
  /-- Reading failed with an error number. -/
  | io (record : VersionRecord) (errno : Int)
  /-- The platform refused access to the archive. -/
  | platform (record : VersionRecord) (code : ResultCode)
  /-- There are fewer bytes than a record has. -/
  | shortRead (record : VersionRecord) (length : Nat)
  deriving Repr, DecidableEq

namespace VersionError

/-- The failure in words. -/
def message : VersionError → String
  | .io record errno => s!"reading {record.text} version.bin failed with errno {errno}"
  | .platform record code => s!"opening {record.text} archive failed with result {code.text}"
  | .shortRead record length =>
    s!"{record.text} version.bin is {length} bytes, expected {VersionBin.size}"

/-- The code of a record that is too short. -/
def shortReadCode : Int := -9

/-- The failure as one number: an error number, or a negative code. -/
def raw : VersionError → Int
  | .io _ errno => errno
  | .platform _ code => code.toInt
  | .shortRead .. => shortReadCode

/-- The record whose reading failed. -/
def record : VersionError → VersionRecord
  | .io record _ => record
  | .platform record _ => record
  | .shortRead record _ => record

end VersionError

/-! ## §3. Reading. -/

/-- Access to the records, with the effects of `m`. -/
structure VersionStorage (m : Type → Type) where
  /-- The contents of a record. -/
  read : VersionRecord → m (Except VersionError (List UInt8))

/-- Both records. -/
structure SystemVersionData where
  /-- The network update version. -/
  nver : VersionBin
  /-- The version that the system settings show. -/
  cver : VersionBin
  deriving Repr, DecidableEq

/-- Both records in a few words. -/
def SystemVersionData.text (data : SystemVersionData) : String :=
  s!"CVer {data.cver.mainver}.{data.cver.minor}.{data.cver.build}  NVer {data.nver.mainver}  region {data.nver.regionLetter}"

namespace VersionStorage

variable {m : Type → Type} [Monad m]

/-- The record that some bytes hold, or how many bytes there were. -/
def decode (record : VersionRecord) : Except VersionError (List UInt8) →
    Except VersionError VersionBin
  | .error e => .error e
  | .ok bytes =>
    match VersionBin.ofBytes? bytes with
    | some bin => .ok bin
    | none => .error (.shortRead record bytes.length)

/-- Read one record. -/
def readRecord (storage : VersionStorage m) (record : VersionRecord) :
    m (Except VersionError VersionBin) := do
  let answer ← storage.read record
  pure (decode record answer)

/-- Read NVer and then CVer; nothing is read twice, and nothing after a failure. -/
def readAll (storage : VersionStorage m) : m (Except VersionError SystemVersionData) := do
  match ← storage.readRecord .nver with
  | .error e => pure (.error e)
  | .ok nver =>
    match ← storage.readRecord .cver with
    | .error e => pure (.error e)
    | .ok cver => pure (.ok ⟨nver, cver⟩)

end VersionStorage

/-- The outcome of a reading as one number: zero for success. -/
def versionResultCode {α : Type} : Except VersionError α → Int
  | .ok _ => 0
  | .error e => e.raw

/-! ## §4. Records in memory. -/

/-- Records kept in memory, one of which can be made to fail. -/
structure MemoryStorage where
  /-- The contents of NVer. -/
  nver : List UInt8
  /-- The contents of CVer. -/
  cver : List UInt8
  /-- The failure of every reading of its record. -/
  failure : Option VersionError := none
  /-- The records read so far, in order. -/
  reads : List VersionRecord := []
  deriving Repr, DecidableEq

namespace MemoryStorage

/-- Well-formed records. -/
def ofBins (nver cver : VersionBin) : MemoryStorage where
  nver := nver.bytes
  cver := cver.bytes

/-- Replace the contents of a record. -/
def setRaw (storage : MemoryStorage) (record : VersionRecord) (bytes : List UInt8) :
    MemoryStorage :=
  match record with
  | .nver => { storage with nver := bytes }
  | .cver => { storage with cver := bytes }

/-- Let readings of the error's record fail with it. -/
def fail (storage : MemoryStorage) (error : VersionError) : MemoryStorage :=
  { storage with failure := some error }

/-- The contents of a record. -/
def contents (storage : MemoryStorage) : VersionRecord → List UInt8
  | .nver => storage.nver
  | .cver => storage.cver

/-- What a reading of a record gives. -/
def answer (storage : MemoryStorage) (record : VersionRecord) :
    Except VersionError (List UInt8) :=
  match storage.failure with
  | some error =>
    if error.record = record then .error error else .ok (storage.contents record)
  | none => .ok (storage.contents record)

/-- Access to the records; every reading is noted, whether it succeeds or not. -/
def access : VersionStorage (StateM MemoryStorage) where
  read record := do
    modify fun storage => { storage with reads := storage.reads ++ [record] }
    pure ((← get).answer record)

end MemoryStorage

end Horizon
