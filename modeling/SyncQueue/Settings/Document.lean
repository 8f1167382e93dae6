import SyncQueue.Json.Printer
import SyncQueue.Json.Schema
import SyncQueue.Number.Width
import SyncQueue.Settings.Basic
import SyncQueue.Settings.Redaction

/-!
# Settings as documents

`Settings.redactedText` shows settings without the password of the database. `Settings.read?` reads
settings from a document in which every field may be missing.
-/

namespace SyncQueue

open Json (Tree Parts)
open Number (Binary64)

/-! ## Writing -/

/-- The document of the settings of a worker. -/
def WorkerSettings.toJson (s : WorkerSettings) : Json := .object [
  ("ID", .string s.id),
  ("POLL_INTERVAL_MS", .nat s.pollIntervalMillis),
  ("HEARTBEAT_INTERVAL_SECONDS", .nat s.heartbeatIntervalSeconds),
  ("SHUTDOWN_POLL_MS", .nat s.shutdownPollMillis)]

/-- The document of the settings of retries. -/
def RetrySettings.toJson (s : RetrySettings) : Json := .object [
  ("JITTER_RATIO", .number s.jitterRatio),
  ("MAX_DELAY_MINUTES", .nat s.maxDelayMinutes),
  ("DEFAULT_MAX_RETRIES", .integer s.defaultMaxRetries)]

/-- The document of the settings of the circuit breaker. -/
def BreakerSettings.toJson (s : BreakerSettings) : Json := .object [
  ("FAILURE_THRESHOLD", .integer s.failureThreshold),
  ("PAUSE_MINUTES", .integer s.pauseMinutes)]

namespace Settings

/-- The document of settings. -/
def toJson (s : Settings) : Json := .object [
  ("PROFILE", .string s.profile),
  ("LOG_LEVEL", .string s.logLevel),
  ("LOG_FORMAT", .string s.logFormat),
  ("DATABASE_URL", .string s.databaseUrl),
  ("DB_MAX_CONNECTIONS", .nat s.maxConnections),
  ("DB_ACQUIRE_TIMEOUT_MS", .nat s.acquireTimeoutMillis),
  ("WORKER", s.worker.toJson),
  ("RETRY", s.retry.toJson),
  ("CIRCUIT_BREAKER", s.breaker.toJson)]

/-- The settings with the password of the database masked. -/
def redacted (s : Settings) : Settings := { s with databaseUrl := redactUrl s.databaseUrl }

/-- The text of the settings without the password of the database. -/
def redactedText (s : Settings) : String := s.redacted.toJson.prettyText

end Settings

/-! ## Reading -/

/-- A field that may be missing. -/
def orDefault {α : Type} (default : α) (read? : Tree → Option α) : Option Tree → Option α
  | none => some default
  | some t => read? t

/-- A natural number of a number of bits. -/
def naturalOfBits? (bits : Nat) (t : Tree) : Option Nat :=
  (t.integerWithin? 0 (Number.maxUnsigned bits)).map Int.toNat

/-- A signed whole number of a number of bits. -/
def signedOfBits? (bits : Nat) (t : Tree) : Option Int :=
  t.integerWithin? (Number.minSigned bits) (Number.maxSigned bits)

/-- A binary64 number, which may be written as a whole number. -/
def binary64? : Tree → Option Binary64
  | .number n =>
    match n.value? with
    | some (.integer i) => some (.ofInt i)
    | some (.number x) => some x
    | _ => none
  | _ => none

/-- Read the settings of a worker over default ones. -/
def WorkerSettings.ofTree? (d : WorkerSettings) (t : Tree) : Option WorkerSettings := do
  let names := ["ID", "POLL_INTERVAL_MS", "HEARTBEAT_INTERVAL_SECONDS", "SHUTDOWN_POLL_MS"]
  match (← t.record? names).optional names.length with
  | [id, poll, heartbeat, shutdown] =>
    return {
      id := ← orDefault d.id Tree.text? id
      pollIntervalMillis := ← orDefault d.pollIntervalMillis (naturalOfBits? 64) poll
      heartbeatIntervalSeconds :=
        ← orDefault d.heartbeatIntervalSeconds (naturalOfBits? 64) heartbeat
      shutdownPollMillis := ← orDefault d.shutdownPollMillis (naturalOfBits? 64) shutdown }
  | _ => none

/-- Read the settings of retries over default ones. -/
def RetrySettings.ofTree? (d : RetrySettings) (t : Tree) : Option RetrySettings := do
  let names := ["JITTER_RATIO", "MAX_DELAY_MINUTES", "DEFAULT_MAX_RETRIES"]
  match (← t.record? names).optional names.length with
  | [jitter, maxDelay, maxRetries] =>
    return {
      jitterRatio := ← orDefault d.jitterRatio binary64? jitter
      maxDelayMinutes := ← orDefault d.maxDelayMinutes (naturalOfBits? 64) maxDelay
      defaultMaxRetries := ← orDefault d.defaultMaxRetries (signedOfBits? 32) maxRetries }
  | _ => none

/-- Read the settings of the circuit breaker over default ones. -/
def BreakerSettings.ofTree? (d : BreakerSettings) (t : Tree) : Option BreakerSettings := do
  let names := ["FAILURE_THRESHOLD", "PAUSE_MINUTES"]
  match (← t.record? names).optional names.length with
  | [threshold, pause] =>
    return {
      failureThreshold := ← orDefault d.failureThreshold (signedOfBits? 32) threshold
      pauseMinutes := ← orDefault d.pauseMinutes (signedOfBits? 64) pause }
  | _ => none

namespace Settings

/-- The names of the fields of settings. -/
def fieldNames : List String := ["PROFILE", "LOG_LEVEL", "LOG_FORMAT", "DATABASE_URL",
  "DB_MAX_CONNECTIONS", "DB_ACQUIRE_TIMEOUT_MS", "WORKER", "RETRY", "CIRCUIT_BREAKER"]

/-- Read settings over default ones. -/
def ofTree? (d : Settings) (t : Tree) : Option Settings := do
  match (← t.record? fieldNames).optional fieldNames.length with
  | [profile, logLevel, logFormat, databaseUrl, maxConnections, acquireTimeout, worker, retry,
      breaker] =>
    return {
      profile := ← orDefault d.profile Tree.text? profile
      logLevel := ← orDefault d.logLevel Tree.text? logLevel
      logFormat := ← orDefault d.logFormat Tree.text? logFormat
      databaseUrl := ← orDefault d.databaseUrl Tree.text? databaseUrl
      maxConnections := ← orDefault d.maxConnections (naturalOfBits? 32) maxConnections
      acquireTimeoutMillis :=
        ← orDefault d.acquireTimeoutMillis (naturalOfBits? 64) acquireTimeout
      worker := ← orDefault d.worker d.worker.ofTree? worker
      retry := ← orDefault d.retry d.retry.ofTree? retry
      breaker := ← orDefault d.breaker d.breaker.ofTree? breaker }
  | _ => none

/-- Read settings from a text; missing ones have their default. -/
def read? (workerId : String) (cs : List Char) : Option Settings :=
  (Tree.read? cs).bind (Settings.default workerId).ofTree?

end Settings

end SyncQueue
