import SyncQueue.EnvFile.Assignment
import SyncQueue.Files.Directory
import SyncQueue.Number.Reading
import SyncQueue.Number.Width
import SyncQueue.Settings.Basic
import SyncQueue.Text.Split

/-!
# Loading settings

Settings come from four environment files and from the process, each layer over the ones before:
`.env`, `.env.local`, the two files of the profile, and the variables of the process. Only names
that begin with `CALSYNC_` count. A text that is blank or does not denote a value of the right kind
counts as missing, whatever a lower layer holds. All variables of the process are gone through as
texts, so one that is not Unicode makes loading panic, whatever its name is.
-/

namespace SyncQueue

open EnvFile (Environment EnvFileError Variables)
open Files (FileContent)
open Number (Binary64)
open Text (after? trim)

/-- The texts of settings by their short names. -/
abbrev RawSettings := List (String × String)

namespace RawSettings

/-- What the names of settings begin with. -/
def marker : String := "CALSYNC_"

/-- The short name of a setting. -/
def shortName? (name : String) : Option String :=
  (after? marker.toList name.toList).map String.ofList

/-- Set a text in place of an earlier one. -/
def insert (raw : RawSettings) (name text : String) : RawSettings :=
  (name, text) :: raw.filter (·.1 != name)

/-- Set the text of a variable, if it is a setting. -/
def put (raw : RawSettings) (name text : String) : RawSettings :=
  match shortName? name with
  | some short => raw.insert short text
  | none => raw

/-- Lay a layer of variables over texts, the last of a name on top. -/
def overlay (raw : RawSettings) (layer : Variables) : RawSettings :=
  layer.foldl (fun raw v => raw.put v.1 v.2) raw

/-- A text without the blanks around it; none when nothing is left. -/
def string? (raw : RawSettings) (name : String) : Option String :=
  ((raw.lookup name).map Text.trimString).filter (!·.isEmpty)

/-- A text read as a value. -/
def parsed? {α : Type} (raw : RawSettings) (name : String) (read? : List Char → Option α) :
    Option α :=
  (raw.lookup name).bind fun text => read? (trim text.toList)

/-- A natural number of 64 bits. -/
def natural? (raw : RawSettings) (name : String) : Option Nat :=
  raw.parsed? name (Text.naturalUpTo? (Number.maxUnsigned 64))

end RawSettings

/-- Why loading gives no settings. -/
inductive LoadFailure where
  | refused (e : SettingsError)
  /-- A variable of the process is not Unicode, and the program breaks off. -/
  | panic
  deriving DecidableEq, Repr

namespace Settings

/-- The settings that texts denote; each that is missing has its default. -/
def ofRaw (d : Settings) (raw : RawSettings) : Settings where
  profile := (raw.string? "PROFILE").getD d.profile
  logLevel := (raw.string? "LOG_LEVEL").getD d.logLevel
  logFormat := (raw.string? "LOG_FORMAT").getD d.logFormat
  databaseUrl := (raw.string? "DATABASE_URL").getD d.databaseUrl
  maxConnections :=
    (raw.parsed? "DB_MAX_CONNECTIONS"
      (Text.naturalUpTo? (Number.maxUnsigned 32))).getD d.maxConnections
  acquireTimeoutMillis := (raw.natural? "DB_ACQUIRE_TIMEOUT_MS").getD d.acquireTimeoutMillis
  worker := {
    id := (raw.string? "WORKER_ID").getD d.worker.id
    pollIntervalMillis :=
      (raw.natural? "WORKER_POLL_INTERVAL_MS").getD d.worker.pollIntervalMillis
    heartbeatIntervalSeconds :=
      (raw.natural? "WORKER_HEARTBEAT_INTERVAL_SECONDS").getD d.worker.heartbeatIntervalSeconds
    shutdownPollMillis :=
      (raw.natural? "WORKER_SHUTDOWN_POLL_MS").getD d.worker.shutdownPollMillis }
  retry := {
    jitterRatio := (raw.parsed? "RETRY_JITTER_RATIO" Binary64.read?).getD d.retry.jitterRatio
    maxDelayMinutes := (raw.natural? "RETRY_MAX_DELAY_MINUTES").getD d.retry.maxDelayMinutes
    defaultMaxRetries :=
      (raw.parsed? "RETRY_DEFAULT_MAX_RETRIES"
        (Text.integerWithin? (Number.minSigned 32)
          (Number.maxSigned 32))).getD d.retry.defaultMaxRetries }
  breaker := {
    failureThreshold :=
      (raw.parsed? "CIRCUIT_BREAKER_FAILURE_THRESHOLD"
        (Text.integerWithin? (Number.minSigned 32)
          (Number.maxSigned 32))).getD d.breaker.failureThreshold
    pauseMinutes :=
      (raw.parsed? "CIRCUIT_BREAKER_PAUSE_MINUTES"
        (Text.integerWithin? (Number.minSigned 64)
          (Number.maxSigned 64))).getD d.breaker.pauseMinutes }

/-! ## Layers -/

/-- The files read whatever the profile is, lowest layer first. -/
def commonFiles : String × String := (".env", ".env.local")

/-- The files of a profile, lowest layer first. -/
def profileFiles (profile : String) : String × String :=
  (".env." ++ profile, ".env." ++ profile ++ ".local")

/-- The profile whose files are read: the variable of the process, else what the common files set,
else the default. -/
def loadedProfile (process : Environment) (common : RawSettings) : String :=
  (process.get? "CALSYNC_PROFILE").getD ((common.lookup "PROFILE").getD defaultProfile)

/-- The variables that a file assigns; none when it does not exist. -/
def fileVariables (process : Environment) (name : String) : FileContent →
    Except SettingsError Variables
  | .absent => .ok []
  | .unreadable cause => .error (.unreadableFile name (EnvFileError.unreadable cause).causes)
  | .bytes content =>
    match EnvFile.assignments process content with
    | .ok made => .ok (made.map fun a => (a.name, a.value))
    | .error e => .error (.unreadableFile name e.causes)

/-- The settings of a profile, given the texts of the common files and the variables of the files of
the profile. -/
def ofLayers (workerId : String) (process : Variables) (profile : String) (common : RawSettings)
    (own ownLocal : Variables) : Settings :=
  { Settings.default workerId with profile }.ofRaw
    (((common.overlay own).overlay ownLocal).overlay process)

/-- Load settings: read the files in order, lay the variables of the process over them, and check
the bounds. The first error ends the loading; the variables of the process are gone through once the
files have been read. -/
def load (workerId : String) (process : Environment) (file : String → FileContent) :
    Except LoadFailure Settings := do
  let read (name : String) : Except LoadFailure Variables :=
    (fileVariables process name (file name)).mapError .refused
  let base ← read commonFiles.1
  let baseLocal ← read commonFiles.2
  let common := (RawSettings.overlay [] base).overlay baseLocal
  let profile := loadedProfile process common
  let own ← read (profileFiles profile).1
  let ownLocal ← read (profileFiles profile).2
  match process.variables? with
  | none => throw .panic
  | some vs => (ofLayers workerId vs profile common own ownLocal).accept.mapError .refused

end Settings

end SyncQueue
