/-
  Horizon.Main
  ────────────
  **THE COMMAND LINE.**

  The machine that the program runs on, and the reporting of how it ended.
-/
import Horizon.Probe

namespace Horizon

/-- An error number; some calls report it negated. -/
def errorNumber (code : UInt32) : Nat :=
  if code.toInt32 < 0 then (0 - code).toNat else code.toNat

/-- The fault of an error number. -/
def readFaultOfNumber (number : Nat) (reason : String) : ReadFault :=
  if number = ReadFault.notFound.errno then .notFound
  else if number = ReadFault.notDirectory.errno then .notDirectory
  else if number = ReadFault.isDirectory.errno then .isDirectory
  else if number = ReadFault.nameTooLong.errno then .nameTooLong
  else .other number reason

/-- What the system says about a file that cannot be read. -/
def readFaultOf : IO.Error → ReadFault
  | .noFileOrDirectory _ code reason => readFaultOfNumber (errorNumber code) reason
  | .inappropriateType _ code reason => readFaultOfNumber (errorNumber code) reason
  | .invalidArgument _ code reason => readFaultOfNumber (errorNumber code) reason
  | .permissionDenied _ code _ => .other (errorNumber code) "Permission denied"
  | error => .other ReadFault.notText.errno (toString error)

/-- There is a file or directory of that name, whether it can be read or not. -/
def isPresent (path : String) : IO Bool := do
  try
    discard (IO.FS.Handle.mk path .read)
    return true
  catch error =>
    match error with
    | .permissionDenied .. => return true
    | _ => return false

/-- The machine that the program runs on. -/
def machine : Host IO where
  setting name := do return (← IO.getEnv name)
  present := isPresent
  contents path := do
    try
      return .ok (← IO.FS.readBinFile path)
    catch error =>
      return .error (readFaultOf error)
  print text := IO.print text
  note line := IO.eprintln line

end Horizon

/-- Run the program and report how it ended. -/
def main (arguments : List String) : IO UInt32 := do
  let ending ← Horizon.Probe.run Horizon.machine arguments
  IO.FS.Stream.flush (← IO.getStdout)
  match ending.message? with
  | none => pure ()
  | some message => IO.eprintln message
  let causes := ending.causeLines
  if !causes.isEmpty then
    IO.eprintln "\nCaused by:"
    for cause in causes do
      IO.eprintln ("    " ++ cause)
  return ending.exitCode
