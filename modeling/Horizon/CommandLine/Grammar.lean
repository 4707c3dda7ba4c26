/-
  Horizon.CommandLine.Grammar
  ───────────────────────────
  **OPTIONS, OPERANDS AND COMMANDS.**

  A command line is read one level at a time: the program's own options up to the name
  of a command, and then that command's options and operand.

      --name value   --name=value   -n value   -nvalue   -n=value   -abc   --

  The value of an option is looked at when the next option starts or the level ends, so
  an argument that has no place at all is reported before a wrong value in front of it.
-/
import Horizon.Text.Terminal

namespace Horizon.CommandLine

open Text

/-! ## §1. Errors. -/

/-- What is wrong with a command line. -/
inductive UsageError where
  /-- An argument has no place here. -/
  | unexpected (argument : String)
  /-- There is no such command. -/
  | unrecognized (command : String)
  /-- A flag was given a value. -/
  | surplusValue (value option : String)
  /-- An option was given twice. -/
  | repeated (option : String)
  /-- An option lacks its value. -/
  | valueMissing (option : String)
  /-- A value is not of the option's kind. -/
  | invalidValue (value option : String) (reason : Option String)
  /-- What must be given was not. -/
  | argumentMissing (name : String)
  /-- There are options and no command. -/
  | commandMissing (program : String)
  /-- There is nothing at all. -/
  | nothingGiven
  deriving Repr, DecidableEq

/-- What was given, as messages show it: between apostrophes and without terminal
control. -/
def shownArgument (argument : String) : String :=
  s!"'{withoutControl argument}'"

/-- The error in words, unless help is more to the point. -/
def UsageError.message? : UsageError → Option String
  | .unexpected argument => some s!"unexpected argument {shownArgument argument} found"
  | .unrecognized command => some s!"unrecognized subcommand {shownArgument command}"
  | .surplusValue value option =>
    some s!"unexpected value {shownArgument value} for '{option}' found; no more were expected"
  | .repeated option => some s!"the argument '{option}' cannot be used multiple times"
  | .valueMissing option => some s!"a value is required for '{option}' but none was supplied"
  | .invalidValue value option none => some s!"invalid value {shownArgument value} for '{option}'"
  | .invalidValue value option (some reason) =>
    some s!"invalid value {shownArgument value} for '{option}': {reason}"
  | .argumentMissing name =>
    some s!"the following required arguments were not provided:\n  {name}"
  | .commandMissing program =>
    some s!"'{program}' requires a subcommand but one was not provided"
  | .nothingGiven => none

/-- Why reading stops before its end. -/
inductive Stop where
  /-- The command line is wrong. -/
  | wrong (error : UsageError)
  /-- Help was asked for. -/
  | help
  /-- The program's version was asked for. -/
  | version
  /-- A value could not be read to its end. -/
  | aborted
  deriving Repr, DecidableEq

/-! ## §2. Grammars. -/

/-- Why a value is refused. -/
inductive Refusal where
  /-- It counts as no value at all. -/
  | blank
  /-- It is not of the right kind. -/
  | wrong (reason : Option String)
  /-- Reading it breaks off, and the program with it. -/
  | fatal
  deriving Repr, DecidableEq

/-- What an option does to the settings of its level. -/
inductive Use (σ : Type) where
  /-- It stands alone. -/
  | flag (set : σ → σ)
  /-- It takes a value, which is shown by a placeholder. -/
  | value (placeholder : String) (read : String → Except Refusal (σ → σ))
  /-- It asks for help. -/
  | help
  /-- It asks for the program's version. -/
  | version

/-- An option. -/
structure Choice (σ : Type) where
  /-- Its long name. -/
  long : String
  /-- Its short name. -/
  short : Option Char
  /-- What it does. -/
  use : Use σ

/-- How messages show an option. -/
def Choice.label {σ : Type} (choice : Choice σ) : String :=
  match choice.use with
  | .value placeholder _ => s!"--{choice.long} <{placeholder}>"
  | _ => s!"--{choice.long}"

/-- The argument that stands without an option's name. -/
structure Operand (σ : Type) where
  /-- How messages show it. -/
  label : String
  /-- It may start with a hyphen, as far as that is no option. -/
  hyphenated : Bool
  /-- Take it. -/
  read : String → Except Refusal (σ → σ)

/-- One level of a command line. -/
structure Level (σ : Type) where
  /-- Its options. -/
  choices : List (Choice σ)
  /-- Its operand. -/
  operand : Option (Operand σ) := none
  /-- The names of its commands. -/
  commands : List String := []

/-! ## §3. Arguments. -/

/-- What an argument looks like. -/
inductive Shape where
  /-- All that follows are operands. -/
  | separator
  /-- A long option, maybe with its value. -/
  | long (name : String) (attached : Option String)
  /-- Short options, the last maybe with its value. -/
  | cluster (names : List Char)
  /-- Anything else. -/
  | plain
  deriving Repr, DecidableEq

/-- The shape of an argument. -/
def shapeOf (argument : String) : Shape :=
  match argument.toList with
  | ['-', '-'] => .separator
  | '-' :: '-' :: body =>
    let name := String.ofList (body.takeWhile (· != '='))
    match body.dropWhile (· != '=') with
    | [] => .long name none
    | _ :: attached => .long name (some (String.ofList attached))
  | ['-'] => .plain
  | '-' :: names => .cluster names
  | _ => .plain

/-- The value that follows a short option within its argument. -/
def attachedValue : List Char → Option String
  | [] => none
  | '=' :: value => some (String.ofList value)
  | value => some (String.ofList value)

/-! ## §4. Scanning. -/

/-- An option or operand whose value was not looked at so far. -/
structure Pending (σ : Type) where
  /-- How messages show it. -/
  label : String
  /-- Take the value. -/
  read : String → Except Refusal (σ → σ)
  /-- The value, if it has come. -/
  value : Option String

/-- What was read of a level. -/
structure Scan (σ : Type) where
  /-- The settings so far. -/
  settings : σ
  /-- Everything that was given, as messages show it. -/
  given : List String := []
  /-- What was not looked at so far. -/
  pending : Option (Pending σ) := none
  /-- The next argument may be the value that is pending. -/
  awaiting : Bool := false
  /-- The operand was given. -/
  filled : Bool := false
  /-- Options have ended. -/
  operandsOnly : Bool := false

variable {σ : Type}

/-- Refuse what was given before. -/
def Scan.unrepeated (scan : Scan σ) (label : String) : Except Stop Unit :=
  if scan.given.contains label then .error (.wrong (.repeated label)) else .ok ()

/-- Note that something was given, and let it change the settings. -/
def Scan.accept (scan : Scan σ) (label : String) (change : σ → σ) : Scan σ :=
  { scan with settings := change scan.settings, given := scan.given ++ [label] }

/-- Look at a value. -/
def Pending.take (pending : Pending σ) (value : String) : Except Stop (σ → σ) :=
  match pending.read value with
  | .ok change => .ok change
  | .error .blank => .error (.wrong (.valueMissing pending.label))
  | .error .fatal => .error .aborted
  | .error (.wrong reason) => .error (.wrong (.invalidValue value pending.label reason))

/-- Look at what is pending. -/
def Scan.resolve (scan : Scan σ) : Except Stop (Scan σ) :=
  match scan.pending with
  | none => .ok scan
  | some pending =>
    match pending.value with
    | none => .error (.wrong (.valueMissing pending.label))
    | some value => do
      scan.unrepeated pending.label
      let change ← pending.take value
      .ok ({ scan with pending := none }.accept pending.label change)

/-- Report an argument that has no place.  The pending value is looked at before, but
whatever is wrong with it is passed over unless the program ends on it. -/
def Scan.refuse {α : Type} (scan : Scan σ) (error : UsageError) : Except Stop α :=
  match scan.resolve with
  | .error .aborted => .error .aborted
  | _ => .error (.wrong error)

/-- Carry out an option, with the value attached to it. -/
def Scan.choose (scan : Scan σ) (choice : Choice σ) (attached : Option String) :
    Except Stop (Scan σ) :=
  match choice.use, attached with
  | .value _ read, none => do
    let scan ← scan.resolve
    .ok { scan with pending := some ⟨choice.label, read, none⟩, awaiting := true }
  | .value _ read, some value => do
    let scan ← scan.resolve
    { scan with
      pending := some ⟨choice.label, read, some value⟩, awaiting := false }.resolve
  | _, some value => scan.refuse (.surplusValue value choice.label)
  | .flag change, none => do
    let scan ← scan.resolve
    scan.unrepeated choice.label
    .ok ({ scan with awaiting := false }.accept choice.label change)
  | .help, none => do
    let _ ← scan.resolve
    .error .help
  | .version, none => do
    let _ ← scan.resolve
    .error .version

namespace Level

/-- The option of that long name. -/
def ofLong? (level : Level σ) (name : String) : Option (Choice σ) :=
  level.choices.find? (·.long == name)

/-- The option of that short name. -/
def ofShort? (level : Level σ) (name : Char) : Option (Choice σ) :=
  level.choices.find? (·.short == some name)

/-- The operand, if it is still to come. -/
def openOperand? (level : Level σ) (scan : Scan σ) : Option (Operand σ) :=
  if scan.filled then none else level.operand

/-- An operand that may start with a hyphen is still to come. -/
def takesHyphens (level : Level σ) (scan : Scan σ) : Bool :=
  (level.openOperand? scan).any (·.hyphenated)

/-- Carry out short options. -/
def cluster (level : Level σ) (scan : Scan σ) : List Char → Except Stop (Scan σ)
  | [] => .ok scan
  | name :: rest =>
    match level.ofShort? name with
    | none => scan.refuse (.unexpected (String.ofList ['-', name]))
    | some choice =>
      match choice.use with
      | .value .. => scan.choose choice (attachedValue rest)
      | _ => do level.cluster (← scan.choose choice none) rest

/-- Report an argument without a place.  Where commands are expected it is taken for
one, except for a command's name that comes too late to be one. -/
def misplaced (level : Level σ) (scan : Scan σ) (argument : String) : UsageError :=
  if level.commands.isEmpty || scan.operandsOnly && level.commands.contains argument then
    .unexpected argument
  else .unrecognized argument

/-- Take an argument as the operand. -/
def takeOperand (level : Level σ) (scan : Scan σ) (argument : String) :
    Except Stop (Scan σ) :=
  match level.openOperand? scan with
  | some operand => do
    let scan ← scan.resolve
    .ok { scan with
          pending := some ⟨operand.label, operand.read, some argument⟩
          awaiting := false, filled := true }
  | none => scan.refuse (level.misplaced scan argument)

/-- Take an argument as the pending value or as the operand. -/
def takePlain (level : Level σ) (scan : Scan σ) (argument : String) :
    Except Stop (Scan σ) :=
  match scan.awaiting, scan.pending with
  | true, some pending =>
    .ok { scan with pending := some { pending with value := some argument }, awaiting := false }
  | _, _ => level.takeOperand scan argument

/-- Read one argument. -/
def step (level : Level σ) (scan : Scan σ) (argument : String) : Except Stop (Scan σ) :=
  if scan.operandsOnly then level.takeOperand scan argument
  else
    match shapeOf argument with
    | .separator => .ok { scan with operandsOnly := true }
    | .long name attached =>
      match level.ofLong? name with
      | some choice => scan.choose choice attached
      | none =>
        if level.takesHyphens scan then level.takePlain scan argument
        else scan.refuse (.unexpected ("--" ++ name))
    | .cluster names =>
      if level.takesHyphens scan && names.any fun name => (level.ofShort? name).isNone then
        level.takePlain scan argument
      else level.cluster scan names
    | .plain => level.takePlain scan argument

/-- Read a level's arguments, up to the name of a command: what was read, and the command
with its arguments. -/
def scan (level : Level σ) (sofar : Scan σ) :
    List String → Except Stop (Scan σ × Option (String × List String))
  | [] => .ok (sofar, none)
  | argument :: rest =>
    if !sofar.operandsOnly && !sofar.awaiting && level.commands.contains argument then
      .ok (sofar, some (argument, rest))
    else do level.scan (← level.step sofar argument) rest

/-- The settings that a level without commands makes of its arguments. -/
def read (level : Level σ) (initial : σ) (arguments : List String) : Except Stop σ := do
  let (sofar, _) ← level.scan { settings := initial } arguments
  let final ← sofar.resolve
  .ok final.settings

end Level

end Horizon.CommandLine
