/-
  Horizon.CommandLine.Request
  ───────────────────────────
  **WHAT THE PROBE CAN BE ASKED FOR.**
-/
import Horizon.CommandLine.Grammar
import Horizon.CommandLine.Number
import Horizon.Config
import Horizon.Duration.Text

namespace Horizon.CommandLine

open Text

/-! ## §1. Requests. -/

/-- A command. -/
inductive Command where
  /-- Report everything. -/
  | info (json : Bool)
  /-- Describe a result code. -/
  | strerror (code : ResultCode)
  /-- Look up an address. -/
  | lookUp (address : UInt32)
  /-- Read the version records of a directory. -/
  | sysver (directory : String) (json : Bool)
  /-- Tell the time. -/
  | time
  /-- Sample the tick counter; what is not given is taken from the settings. -/
  | ticks (samples : Option UInt32) (interval : Option Duration)
  /-- Show the settings. -/
  | config
  deriving Repr, DecidableEq

/-- The options in front of the command. -/
structure Globals where
  /-- The file of the settings. -/
  config : Option String := none
  /-- The hardware model, instead of the one in the settings. -/
  model : Option ConsoleModel := none
  /-- The least severity that is logged. -/
  logLevel : String := "info"
  deriving Repr, DecidableEq

/-- A complete command line. -/
structure Request where
  /-- The options in front of the command. -/
  globals : Globals
  /-- The command. -/
  command : Command
  deriving Repr, DecidableEq

/-! ## §2. Values. -/

/-- Any text but the empty one. -/
def readPath (text : String) : Except Refusal String :=
  if text.isEmpty then .error .blank else .ok text

/-- The name of a hardware model. -/
def readModel (text : String) : Except Refusal ConsoleModel :=
  if text = ConsoleModel.old.text then .ok .old
  else if text = ConsoleModel.new.text then .ok .new
  else if text.isEmpty then .error .blank
  else .error (.wrong none)

/-- A count that fits a word; only decimal digits and a sign. -/
def readCount (text : String) : Except Refusal UInt32 :=
  match readSigned 10 0x7FFF_FFFF_FFFF_FFFF text.toList with
  | .error cause => .error (.wrong (some cause.message))
  | .ok i =>
    if 0 ≤ i ∧ i ≤ wordLimit then .ok (UInt32.ofNat i.toNat)
    else .error (.wrong (some s!"{i} is not in 0..={wordLimit}"))

/-- A duration. -/
def readInterval (text : String) : Except Refusal Duration :=
  (Duration.parse text).mapError fun cause =>
    if cause = .exhausted then .fatal else .wrong (some cause.message)

/-- A result code. -/
def readCode (text : String) : Except Refusal ResultCode :=
  (parseResultCode text).mapError fun cause => .wrong (some cause.message)

/-- An address. -/
def readAddress (text : String) : Except Refusal UInt32 :=
  (parseWord text).mapError fun cause => .wrong (some cause.message)

/-! ## §3. Levels. -/

/-- The option that asks for help. -/
def helpChoice {σ : Type} : Choice σ := ⟨"help", some 'h', .help⟩

/-- An option that sets one field of the settings. -/
def valueChoice {σ α : Type} (long : String) (short : Char) (placeholder : String)
    (read : String → Except Refusal α) (set : α → σ → σ) : Choice σ :=
  ⟨long, some short, .value placeholder fun text => (read text).map set⟩

/-- The program's name. -/
def programName : String := "ctr-probe"

/-- The program's version. -/
def programVersion : String := "0.1.0"

/-- The options in front of the command, and the commands. -/
def globalLevel : Level Globals where
  choices :=
    [valueChoice "config" 'c' "FILE" readPath fun x g => { g with config := some x },
     valueChoice "model" 'm' "MODEL" readModel fun x g => { g with model := some x },
     valueChoice "log-level" 'l' "LOG_LEVEL" .ok fun x g => { g with logLevel := x },
     helpChoice,
     ⟨"version", some 'V', .version⟩]
  commands :=
    ["info", "strerror", "translate", "sysver", "time", "ticks", "config", "help"]

/-- The option for output as JSON, where the settings end in that choice. -/
def jsonChoice {σ : Type} (set : σ → σ) : Choice σ := ⟨"json", none, .flag set⟩

/-- The arguments of a report. -/
def infoLevel : Level Bool where
  choices := [jsonChoice fun _ => true, helpChoice]

/-- The arguments of a description. -/
def strerrorLevel : Level (Option ResultCode) where
  choices := [helpChoice]
  operand := some ⟨"<CODE>", true, fun text => (readCode text).map fun x _ => some x⟩

/-- The arguments of a look-up. -/
def lookUpLevel : Level (Option UInt32) where
  choices := [helpChoice]
  operand := some ⟨"<VADDR>", false, fun text => (readAddress text).map fun x _ => some x⟩

/-- The arguments of a reading of the version records. -/
def sysverLevel : Level (Option String × Bool) where
  choices :=
    [valueChoice "dir" 'd' "DIR" readPath fun x s => (some x, s.2),
     jsonChoice fun s => (s.1, true),
     helpChoice]

/-- The arguments of a command without any. -/
def bareLevel : Level Unit where
  choices := [helpChoice]

/-- The arguments of a sampling. -/
def ticksLevel : Level (Option UInt32 × Option Duration) where
  choices :=
    [valueChoice "samples" 'n' "SAMPLES" readCount fun x s => (some x, s.2),
     valueChoice "interval" 'i' "INTERVAL" readInterval fun x s => (s.1, some x),
     helpChoice]

/-! ## §4. Parsing. -/

/-- What must be given. -/
def required {α : Type} (label : String) : Option α → Except Stop α
  | some value => .ok value
  | none => .error (.wrong (.argumentMissing label))

/-- Help for the program or for a command; commands have no commands of their own. -/
def helpFor : List String → Stop
  | [] => .help
  | name :: more =>
    if globalLevel.commands.contains name then
      match more with
      | [] => .help
      | surplus :: _ => .wrong (.unrecognized surplus)
    else .wrong (.unrecognized name)

/-- The command of that name with the given arguments. -/
def parseCommand (name : String) (arguments : List String) : Except Stop Command :=
  match name with
  | "info" => do return .info (← infoLevel.read false arguments)
  | "strerror" => do
    return .strerror (← required "<CODE>" (← strerrorLevel.read none arguments))
  | "translate" => do
    return .lookUp (← required "<VADDR>" (← lookUpLevel.read none arguments))
  | "sysver" => do
    let (directory, json) ← sysverLevel.read (none, false) arguments
    return .sysver (← required "--dir <DIR>" directory) json
  | "time" => do
    bareLevel.read () arguments
    return .time
  | "ticks" => do
    let (samples, interval) ← ticksLevel.read (none, none) arguments
    return .ticks samples interval
  | "config" => do
    bareLevel.read () arguments
    return .config
  | "help" => .error (helpFor arguments)
  | other => .error (.wrong (.unrecognized other))

/-- Read a command line.  The value right in front of the command is looked at after the
whole command. -/
def parse (arguments : List String) : Except Stop Request := do
  let (sofar, found) ← globalLevel.scan { settings := {} } arguments
  match found with
  | some (name, rest) =>
    let command ← parseCommand name rest
    let final ← sofar.resolve
    .ok ⟨final.settings, command⟩
  | none =>
    let final ← sofar.resolve
    if final.given.isEmpty then .error (.wrong .nothingGiven)
    else .error (.wrong (.commandMissing programName))

end Horizon.CommandLine
