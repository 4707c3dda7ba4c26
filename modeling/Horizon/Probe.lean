/-
  Horizon.Probe
  ─────────────
  **THE PROBE AS A PROGRAM.**

  A run reads the command line, finds the settings, builds the simulated console and
  carries out one command.  Whatever happens on the way is logged as far as the filter
  admits it.  The first settings found are the ones used:

      the file named by --config
      the file named by CTR_PROBE_CONFIG, if there is one
      config/probe.toml, if there is one
      the defaults
-/
import Horizon.CommandLine.Request
import Horizon.Host
import Horizon.Layout
import Horizon.Log.Filter
import Horizon.Report
import Horizon.Schema.Console
import Horizon.Speedup
import Horizon.TickSampling

namespace Horizon.Probe

open CommandLine Text

/-! ## §1. Endings. -/

/-- How a run ends. -/
inductive Ending where
  /-- Everything was done. -/
  | success
  /-- The command line is wrong. -/
  | misused (error : UsageError)
  /-- Something failed, for a chain of causes. -/
  | failure (context : String) (causes : List String)
  /-- The work broke off. -/
  | aborted
  deriving Repr, DecidableEq

namespace Ending

/-- The exit code. -/
def exitCode : Ending → UInt32
  | .success => 0
  | .failure .. => 1
  | .misused _ => 2
  | .aborted => 101

/-- The message, for an ending that has one. -/
def message? : Ending → Option String
  | .success => none
  | .misused error => error.message?.map ("error: " ++ ·)
  | .failure context _ => some ("Error: " ++ context)
  | .aborted => none

/-- The causes as listed: several are numbered from zero. -/
def causeLines : Ending → List String
  | .failure _ [only] => [only]
  | .failure _ causes => causes.zipIdx.map fun cause => s!"{cause.2}: {cause.1}"
  | _ => []

end Ending

/-! ## §2. Events. -/

namespace Note

open Log (Event)

/-- The program's own part of the log. -/
def main : String := "ctr_probe"
/-- The settings' part of the log. -/
def settings : String := "ctr_common::config"
/-- The part of the log about the processor's speed. -/
def speedup : String := "ctr_os::speedup"
/-- The simulated console's part of the log. -/
def console : String := "ctr_os::sim"
/-- The version records' part of the log. -/
def records : String := "ctr_os::sysver"
/-- The part of the log about dumped files. -/
def dumps : String := "ctr_probe::storage"

/-- The run starts. -/
def starting : Event :=
  ⟨.debug, main, "Starting ctr-probe", [("version", quote programVersion)]⟩

/-- Settings are taken from the command line's file. -/
def fromArgument (path : String) : Event :=
  ⟨.info, main, "Loading config from command-line argument",
    [("config_path", quote path)]⟩

/-- Settings are taken from the environment's file. -/
def fromEnvironment (path : String) : Event :=
  ⟨.info, main, "Loading config from CTR_PROBE_CONFIG", [("config_path", quote path)]⟩

/-- The environment's file does not exist. -/
def absent (path : String) : Event :=
  ⟨.warn, main, "CTR_PROBE_CONFIG set but file does not exist, checking other locations",
    [("path", path)]⟩

/-- Settings are taken from the local file. -/
def fromLocal (path : String) : Event :=
  ⟨.info, main, "Loading config from local path", [("local_path", quote path)]⟩

/-- There are no settings. -/
def noSettings : Event :=
  ⟨.debug, main, "No config file found, using built-in defaults", []⟩

/-- A file of settings is read. -/
def readingSettings (path : String) : Event :=
  ⟨.debug, settings, "Reading platform config", [("path", quote path)]⟩

/-- The processor is about to be switched. -/
def configuring (enable : Bool) : Event :=
  ⟨.debug, speedup, "Configuring New 3DS CPU",
    [("enable", toString enable), ("flags", toString (Speedup.flags enable))]⟩

/-- The processor was switched. -/
def reconfigured (flags : UInt8) : Event :=
  ⟨.debug, console, "Simulated CPU reconfigured", [("flags", toString flags)]⟩

/-- The processor could not be switched. -/
def speedupFailed (enable : Bool) (cause : Fault) : Event :=
  ⟨.warn, speedup, "Speedup configuration failed",
    [("enable", toString enable), ("error", cause.message)]⟩

/-- A version record is read. -/
def readingRecord (path : String) (record : VersionRecord) : Event :=
  ⟨.debug, dumps, "Reading version record",
    [("path", quote path), ("record", record.text)]⟩

/-- Both version records were read. -/
def recordsRead (data : SystemVersionData) : Event :=
  ⟨.debug, records, "Read system version data",
    [("cver", s!"{data.cver.mainver}.{data.cver.minor}.{data.cver.build}"),
     ("nver", toString data.nver.mainver),
     ("region", toString data.nver.regionLetter)]⟩

/-- The tick counter is about to be sampled. -/
def sampling (samples : UInt32) (interval : Duration) (step : UInt64) : Event :=
  ⟨.info, main, "Sampling tick counter",
    [("samples", toString samples), ("interval", interval.brief), ("step", toString step)]⟩

/-- The tick counter was sampled. -/
def sampled : Event :=
  ⟨.debug, main, "Sampling complete",
    [("ticks_per_ms",
      Binary.Style.pointed.text .double Clock.ticksPerMillisecond.datum)]⟩

end Note

/-! ## §3. The log. -/

/-- The environment variable with the filter of the log. -/
def filterVariable : String := "RUST_LOG"

/-- The filter that shows all parts of the program up to a level. -/
def defaultFilter? (level : String) : Option Log.Filter :=
  Log.Filter.ofText? s!"ctr_probe={level},ctr_os={level},ctr_common={level}"

/-- The filter of the environment if it has one, else that of the command line; nothing
if reading breaks off. -/
def filterOf? (level : String) (environment : Option String) : Option Log.Filter :=
  match environment.map Log.Filter.parse with
  | some (.ok filter) => some filter
  | some (.error .partedCharacter) => none
  | some (.error .malformed) => defaultFilter? level
  | none => defaultFilter? level

/-- A machine and what is logged on it. -/
structure Session (m : Type → Type) where
  /-- The machine. -/
  host : Host m
  /-- What is logged. -/
  filter : Log.Filter

variable {m : Type → Type} [Monad m]

/-- Log an event if the filter admits it. -/
def Session.log (session : Session m) (event : Log.Event) : m Unit :=
  if session.filter.admits event then session.host.note event.line else pure ()

/-! ## §4. Settings. -/

/-- The environment variable with the name of the settings' file. -/
def configVariable : String := "CTR_PROBE_CONFIG"

/-- The settings' file in the working directory. -/
def localConfig : String := "config/probe.toml"

/-- The settings of a file; a failure names the file as `shown`. -/
def readConfig (session : Session m) (path shown : String) : m (Except Ending PlatformConfig) := do
  session.log (Note.readingSettings path)
  match PlatformConfig.ofContents path (← session.host.contents path) with
  | .ok config => pure (.ok config)
  | .error error =>
    if error.isFatal then pure (.error .aborted)
    else
      pure (.error
        (.failure s!"Failed to load config from {shown}" [error.message, error.cause]))

/-- The settings of the working directory, or the defaults. -/
def localOrDefault (session : Session m) : m (Except Ending PlatformConfig) := do
  if ← session.host.present localConfig then
    session.log (Note.fromLocal localConfig)
    readConfig session localConfig (quote localConfig)
  else
    session.log Note.noSettings
    pure (.ok {})

/-- Find the settings. -/
def loadConfig (session : Session m) (named : Option String) :
    m (Except Ending PlatformConfig) := do
  match named with
  | some path =>
    session.log (Note.fromArgument path)
    readConfig session path (quote path)
  | none =>
    match ← session.host.setting configVariable with
    | none => localOrDefault session
    | some path =>
      if ← session.host.present path then
        session.log (Note.fromEnvironment path)
        readConfig session path s!"CTR_PROBE_CONFIG={quote path}"
      else
        session.log (Note.absent path)
        localOrDefault session

/-! ## §5. The console. -/

/-- Ask a console for the fast state. -/
def speedUp (session : Session m) (console : Console) : m Console := do
  session.log (Note.configuring true)
  match console.trySetSpeedup true with
  | .ok faster =>
    session.log (Note.reconfigured faster.cpuFlags)
    pure faster
  | .error cause =>
    session.log (Note.speedupFailed true cause)
    pure console

/-- The console that the settings describe. -/
def consoleOf (session : Session m) (config : PlatformConfig) : m Console := do
  let console := (Console.ofConfig config.simulation).withModel config.model
  if config.speedup then speedUp session console else pure console

/-! ## §6. Version records in a directory. -/

/-- The file of a record. -/
def recordFile : VersionRecord → String
  | .nver => "nver.bin"
  | .cver => "cver.bin"

/-- A file's path in a directory. -/
def pathIn (directory name : String) : String :=
  if directory.toList.getLast? = some '/' then directory ++ name
  else directory ++ "/" ++ name

/-- The records dumped in a directory. -/
def dumpedRecords (session : Session m) (directory : String) : VersionStorage m where
  read record := do
    let path := pathIn directory (recordFile record)
    session.log (Note.readingRecord path record)
    match ← session.host.contents path with
    | .ok bytes => pure (.ok bytes.data.toList)
    | .error fault => pure (.error (.io record fault.errno))

/-! ## §7. Commands. -/

/-- A document as indented JSON. -/
def jsonText (document : Document) : String :=
  Json.pretty "" document ++ "\n"

/-- A report; as text it may break off. -/
def info (session : Session m) (config : PlatformConfig) (console : Console) (json : Bool) :
    m Ending := do
  let bus := (Image.ofConfig config.simulation).bus
  let report := ((SystemReport.collect config.model bus Console.supervisor).run console).1
  if json then
    session.host.print (jsonText report.document)
    pure .success
  else
    match report.text with
    | .ok text =>
      session.host.print text
      pure .success
    | .error text =>
      session.host.print text
      pure .aborted

/-- What a result code says. -/
def describe (code : ResultCode) : String :=
  s!"{code}: {code.explain} (level {code.level.label}, summary {code.summary.label}, module {code.module}, description {code.description})\n"

/-- Where an address leads. -/
def describeAddress (address : UInt32) : String :=
  let physical :=
    match mappingOf address, physicalOf? address with
    | some region, some target => s!"{hexWord target} ({region.name})"
    | _, _ => "unmapped"
  let linear :=
    match linearOf? address with
    | some target => hexWord target
    | none => "outside both linear mappings"
  s!"{hexWord address} -> {physical}\nlinear: {linear}\n"

/-- The version records of a directory. -/
def sysver (session : Session m) (directory : String) (json : Bool) : m Ending := do
  let result ← (dumpedRecords session directory).readAll
  match result with
  | .ok data =>
    session.log (Note.recordsRead data)
    session.host.print
      (if json then jsonText (Codec.systemVersionData.encode data) else data.text ++ "\n")
    pure .success
  | .error error =>
    let shown := quote directory
    pure (.failure
      s!"Failed to read version records from {shown} (result {versionResultCode result})"
      [error.message])

/-- The time on a console. -/
def time (config : PlatformConfig) (console : Console) : String :=
  let bus := (Image.ofConfig config.simulation).bus
  let milliseconds := ((WallTime.now bus Console.supervisor).run console).1
  s!"{milliseconds} ms since 1900-01-01\n"

/-- Samples of the tick counter. -/
def ticks (session : Session m) (config : PlatformConfig) (console : Console)
    (samples : Option UInt32) (interval : Option Duration) : m Ending := do
  let samples := samples.getD config.probe.samples
  let interval := interval.getD config.probe.sampleInterval
  let step := durationToTicks interval
  session.log (Note.sampling samples interval step)
  let sampling := TickSampling.run console step samples.toNat
  for line in sampling.lines do
    session.host.print (line ++ "\n")
  session.log Note.sampled
  pure .success

/-- The settings as TOML. -/
def showConfig (session : Session m) (config : PlatformConfig) : m Ending := do
  match config.toToml with
  | .ok text =>
    session.host.print text
    pure .success
  | .error error => pure (.failure error.message [error.cause])

/-- Carry out a command. -/
def execute (session : Session m) (config : PlatformConfig) (command : Command) :
    m Ending := do
  let console ← consoleOf session config
  match command with
  | .info json => info session config console json
  | .strerror code =>
    session.host.print (describe code)
    pure .success
  | .lookUp address =>
    session.host.print (describeAddress address)
    pure .success
  | .sysver directory json => sysver session directory json
  | .time =>
    session.host.print (time config console)
    pure .success
  | .ticks samples interval => ticks session config console samples interval
  | .config => showConfig session config

/-! ## §8. Runs. -/

/-- Carry out a request. -/
def serve (host : Host m) (request : Request) : m Ending := do
  match filterOf? request.globals.logLevel (← host.setting filterVariable) with
  | none => pure .aborted
  | some filter =>
    let session : Session m := ⟨host, filter⟩
    session.log Note.starting
    match ← loadConfig session request.globals.config with
    | .error ending => pure ending
    | .ok config =>
      let model := request.globals.model.getD config.model
      execute session { config with model } request.command

/-- How the program is used. -/
def usage : String :=
  s!"Usage: {programName} [OPTIONS] <COMMAND>\n"

/-- Run the program. -/
def run (host : Host m) (arguments : List String) : m Ending := do
  match CommandLine.parse arguments with
  | .ok request => serve host request
  | .error (.wrong error) => pure (.misused error)
  | .error .help =>
    host.print usage
    pure .success
  | .error .version =>
    host.print s!"{programName} {programVersion}\n"
    pure .success
  | .error .aborted => pure .aborted

end Horizon.Probe
