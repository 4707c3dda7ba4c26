/-
  Horizon.Settings
  ────────────────
  **SETTINGS AS TOML TEXT.**

  A text is accepted if it is TOML, fits the settings and describes a console that could
  exist; these three are checked in this order.
-/
import Horizon.Document.Toml.Reader
import Horizon.Document.Toml.Writer
import Horizon.Schema.Config

namespace Horizon

/-- Why the contents of a file are not there. -/
inductive ReadFault where
  /-- There is no such file. -/
  | notFound
  /-- A directory on the way is none. -/
  | notDirectory
  /-- The file is a directory. -/
  | isDirectory
  /-- A name on the way is too long. -/
  | nameTooLong
  /-- The contents are no text. -/
  | notText
  /-- Some other error. -/
  | other (errno : Nat) (reason : String)
  deriving Repr, DecidableEq

namespace ReadFault

/-- The error in words. -/
def message : ReadFault → String
  | .notFound => "No such file or directory (os error 2)"
  | .notDirectory => "Not a directory (os error 20)"
  | .isDirectory => "Is a directory (os error 21)"
  | .nameTooLong => "File name too long (os error 36)"
  | .notText => "stream did not contain valid UTF-8"
  | .other errno reason => s!"{reason} (os error {errno})"

/-- The error number. -/
def errno : ReadFault → Nat
  | .notFound => 2
  | .notDirectory => 20
  | .isDirectory => 21
  | .nameTooLong => 36
  | .notText => 5
  | .other errno _ => errno

end ReadFault

/-- Why there are no settings. -/
inductive ConfigError where
  /-- The file cannot be read. -/
  | io (path : String) (cause : ReadFault)
  /-- The text is not TOML. -/
  | notToml
  /-- The document does not fit the settings. -/
  | decode (cause : DecodeError)
  /-- No such console could exist. -/
  | invalid (cause : Fault)
  /-- The settings have no TOML form. -/
  | write (cause : Toml.WriteError)
  deriving Repr, DecidableEq

/-- The error in words; of a text that is not TOML, only that it is not. -/
def ConfigError.message : ConfigError → String
  | .io path cause => s!"failed to read config file {path}: {cause.message}"
  | .notToml => "failed to parse TOML: TOML parse error"
  | .decode cause => s!"failed to parse TOML: {cause.message}"
  | .invalid cause => s!"invalid configuration: {cause.message}"
  | .write cause => s!"failed to serialize TOML: {cause.message}"

/-- The program ends on the error instead of reporting it. -/
def ConfigError.isFatal (error : ConfigError) : Bool :=
  error = .decode (.duration .exhausted)

/-- What the error was caused by, in words. -/
def ConfigError.cause : ConfigError → String
  | .io _ cause => cause.message
  | .notToml => "TOML parse error"
  | .decode cause => cause.message
  | .invalid cause => cause.message
  | .write cause => cause.message

namespace PlatformConfig

/-- The settings that a TOML text describes. -/
def ofToml (text : String) : Except ConfigError PlatformConfig := do
  match Toml.parse text with
  | none => .error .notToml
  | some document =>
    match Codec.platformConfig.decode .toml document with
    | .error cause => .error (.decode cause)
    | .ok config =>
      match config.simulation.validate with
      | .error cause => .error (.invalid cause)
      | .ok () => .ok config

/-- The settings as TOML text. -/
def toToml (config : PlatformConfig) : Except ConfigError String :=
  let entries := Codec.platformConfigRecord.fields.map fun field =>
    (field.name, field.write config)
  (Toml.write entries).mapError .write

/-- The settings in the contents of a file, or why it has none. -/
def ofContents (path : String) : Except ReadFault ByteArray → Except ConfigError PlatformConfig
  | .error cause => .error (.io path cause)
  | .ok bytes =>
    match String.fromUTF8? bytes with
    | none => .error (.io path .notText)
    | some text => ofToml text

end PlatformConfig

end Horizon
