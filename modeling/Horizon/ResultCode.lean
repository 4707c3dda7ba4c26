/-
  Horizon.ResultCode
  ──────────────────
  **RESULT CODES OF SERVICE CALLS.**

  A result code is a signed 32-bit word.  A code that is not negative is a success; a
  failure carries its classification in bit fields:

       31    27 26    21 20  18 17      10 9          0
      ┌────────┬────────┬──────┬──────────┬────────────┐
      │ level  │summary │  --  │  module  │description │
      └────────┴────────┴──────┴──────────┴────────────┘
-/
import Horizon.Text.Numeral

namespace Horizon

/-! ## §1. Level and summary. -/

/-- How severe a failure is. -/
inductive Level where
  | success
  | info
  | status
  | temporary
  | permanent
  | usage
  | reinit
  | reset
  | fatal
  /-- A value without a name; of the byte only the field's five bits count. -/
  | other (bits : UInt8)
  deriving Repr, DecidableEq, Inhabited

namespace Level

/-- Decode the five-bit field. -/
def ofBits (bits : UInt8) : Level :=
  let field := bits &&& 0x1F
  if field = 0 then .success
  else if field = 1 then .info
  else if field = 0x19 then .status
  else if field = 0x1A then .temporary
  else if field = 0x1B then .permanent
  else if field = 0x1C then .usage
  else if field = 0x1D then .reinit
  else if field = 0x1E then .reset
  else if field = 0x1F then .fatal
  else .other field

/-- Encode into the five-bit field. -/
def bits : Level → UInt8
  | .success => 0
  | .info => 1
  | .status => 0x19
  | .temporary => 0x1A
  | .permanent => 0x1B
  | .usage => 0x1C
  | .reinit => 0x1D
  | .reset => 0x1E
  | .fatal => 0x1F
  | .other bits => bits &&& 0x1F

/-- The level's name, as reports show it. -/
def label : Level → String
  | .success => "Success"
  | .info => "Info"
  | .status => "Status"
  | .temporary => "Temporary"
  | .permanent => "Permanent"
  | .usage => "Usage"
  | .reinit => "Reinitialize"
  | .reset => "Reset"
  | .fatal => "Fatal"
  | .other bits => s!"Other({bits.toNat})"

end Level

/-- The broad category of a failure. -/
inductive Summary where
  | success
  | nop
  | wouldBlock
  | outOfResource
  | notFound
  | invalidState
  | notSupported
  | invalidArg
  | wrongArg
  | canceled
  | statusChanged
  | internal
  | invalidResultValue
  /-- A value without a name; of the byte only the field's six bits count. -/
  | other (bits : UInt8)
  deriving Repr, DecidableEq, Inhabited

namespace Summary

/-- Decode the six-bit field. -/
def ofBits (bits : UInt8) : Summary :=
  let field := bits &&& 0x3F
  if field = 0 then .success
  else if field = 1 then .nop
  else if field = 2 then .wouldBlock
  else if field = 3 then .outOfResource
  else if field = 4 then .notFound
  else if field = 5 then .invalidState
  else if field = 6 then .notSupported
  else if field = 7 then .invalidArg
  else if field = 8 then .wrongArg
  else if field = 9 then .canceled
  else if field = 10 then .statusChanged
  else if field = 11 then .internal
  else if field = 63 then .invalidResultValue
  else .other field

/-- Encode into the six-bit field. -/
def bits : Summary → UInt8
  | .success => 0
  | .nop => 1
  | .wouldBlock => 2
  | .outOfResource => 3
  | .notFound => 4
  | .invalidState => 5
  | .notSupported => 6
  | .invalidArg => 7
  | .wrongArg => 8
  | .canceled => 9
  | .statusChanged => 10
  | .internal => 11
  | .invalidResultValue => 63
  | .other bits => bits &&& 0x3F

/-- The summary's name, as reports show it. -/
def label : Summary → String
  | .success => "Success"
  | .nop => "Nop"
  | .wouldBlock => "WouldBlock"
  | .outOfResource => "OutOfResource"
  | .notFound => "NotFound"
  | .invalidState => "InvalidState"
  | .notSupported => "NotSupported"
  | .invalidArg => "InvalidArg"
  | .wrongArg => "WrongArg"
  | .canceled => "Canceled"
  | .statusChanged => "StatusChanged"
  | .internal => "Internal"
  | .invalidResultValue => "InvalidResultValue"
  | .other bits => s!"Other({bits.toNat})"

/-- What a service error of this category means, in a few words. -/
def explain : Summary → String
  | .success => "Success."
  | .nop => "Nothing happened."
  | .wouldBlock => "Would block."
  | .outOfResource => "Not enough resources."
  | .notFound => "Not found."
  | .invalidState => "Invalid state."
  | .notSupported => "Unsupported."
  | .invalidArg => "Invalid argument."
  | .wrongArg => "Wrong argument."
  | .canceled => "Interrupted."
  | .statusChanged => "Status changed."
  | .internal => "Internal error."
  | .invalidResultValue => "Unknown."
  | .other _ => "Unknown."

end Summary

/-! ## §2. Descriptions that all modules share. -/

namespace Description

/-- Nothing to describe. -/
def success : UInt16 := 0
/-- A selector names nothing. -/
def invalidSelection : UInt16 := 1000
/-- A value is too large. -/
def tooLarge : UInt16 := 1001
/-- The caller lacks the right. -/
def notAuthorized : UInt16 := 1002
/-- The request was carried out before. -/
def alreadyDone : UInt16 := 1003
/-- A size is wrong. -/
def invalidSize : UInt16 := 1004
/-- A selector is outside its enumeration. -/
def invalidEnumValue : UInt16 := 1005
/-- Arguments contradict each other. -/
def invalidCombination : UInt16 := 1006
/-- There is no data. -/
def noData : UInt16 := 1007
/-- The service is busy. -/
def busy : UInt16 := 1008
/-- An address is not aligned. -/
def misalignedAddress : UInt16 := 1009
/-- A size is not aligned. -/
def misalignedSize : UInt16 := 1010
/-- Memory ran out. -/
def outOfMemory : UInt16 := 1011
/-- The request is not implemented. -/
def notImplemented : UInt16 := 1012
/-- An address is wrong. -/
def invalidAddress : UInt16 := 1013
/-- A pointer is wrong. -/
def invalidPointer : UInt16 := 1014
/-- A handle is wrong. -/
def invalidHandle : UInt16 := 1015
/-- The service was not initialized. -/
def notInitialized : UInt16 := 1016
/-- The service was initialized before. -/
def alreadyInitialized : UInt16 := 1017
/-- The object does not exist. -/
def notFound : UInt16 := 1018
/-- The request was canceled. -/
def cancelRequested : UInt16 := 1019
/-- The object exists. -/
def alreadyExists : UInt16 := 1020
/-- A value is out of range. -/
def outOfRange : UInt16 := 1021
/-- Time ran out. -/
def timeout : UInt16 := 1022
/-- The result itself is wrong. -/
def invalidResultValue : UInt16 := 1023

/-- Every description, in increasing order. -/
def all : List UInt16 :=
  [success, invalidSelection, tooLarge, notAuthorized, alreadyDone, invalidSize,
   invalidEnumValue, invalidCombination, noData, busy, misalignedAddress, misalignedSize,
   outOfMemory, notImplemented, invalidAddress, invalidPointer, invalidHandle,
   notInitialized, alreadyInitialized, notFound, cancelRequested, alreadyExists,
   outOfRange, timeout, invalidResultValue]

end Description

/-! ## §3. The code. -/

/-- The result of a service call, as the word it returned. -/
structure ResultCode where
  /-- The word. -/
  raw : UInt32
  deriving Repr, DecidableEq, Inhabited

namespace ResultCode

/-- The plain success. -/
def success : ResultCode := ⟨0⟩

/-- Pack a code from its fields; what does not fit a field is cut off. -/
def pack (level : Level) (summary : Summary) (module : UInt8) (description : UInt16) :
    ResultCode :=
  ⟨((level.bits.toUInt32 &&& 0x1F) <<< 27) ||| ((summary.bits.toUInt32 &&& 0x3F) <<< 21) |||
    (module.toUInt32 <<< 10) ||| (description.toUInt32 &&& 0x3FF)⟩

/-- The code of a signed word. -/
def ofInt (value : Int) : ResultCode := ⟨UInt32.ofNat (value % 0x1_0000_0000).toNat⟩

/-- The word as a signed number. -/
def toInt (code : ResultCode) : Int :=
  if code.raw.toNat < 0x8000_0000 then code.raw.toNat else (code.raw.toNat : Int) - 0x1_0000_0000

/-- Codes that are not negative are successes. -/
def isSuccess (code : ResultCode) : Bool := 0 ≤ code.toInt

/-- Negative codes are failures. -/
def isFailure (code : ResultCode) : Bool := code.toInt < 0

/-- The severity field. -/
def level (code : ResultCode) : Level := .ofBits (code.raw >>> 27).toUInt8

/-- The category field. -/
def summary (code : ResultCode) : Summary := .ofBits ((code.raw >>> 21) &&& 0x3F).toUInt8

/-- The number of the module that failed. -/
def module (code : ResultCode) : UInt8 := ((code.raw >>> 10) &&& 0xFF).toUInt8

/-- The description field. -/
def description (code : ResultCode) : UInt16 := (code.raw &&& 0x3FF).toUInt16

/-- A success, or the code as the failure it is. -/
def toExcept (code : ResultCode) : Except ResultCode Unit :=
  if code.isSuccess then .ok () else .error code

/-- The word in hexadecimal. -/
def text (code : ResultCode) : String := Text.hexWord code.raw

instance : ToString ResultCode where
  toString := text

/-- What the code means, in a few words: its summary decides. -/
def explain (code : ResultCode) : String := code.summary.explain

end ResultCode

end Horizon
