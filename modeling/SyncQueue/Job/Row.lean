import SyncQueue.Job.Status
import SyncQueue.Json.Value
import SyncQueue.Number.Width
import SyncQueue.Time.Instant
import SyncQueue.Uuid

/-!
# Rows

The four kinds of rows that the queue keeps: jobs, the log of their attempts, the failure counts of
keys and the alerts raised for them. A key is a connector with a calendar pair.
-/

namespace SyncQueue

open Time (Instant)

/-- A connector and the calendar pair it synchronizes. -/
structure SyncKey where
  connector : Uuid
  pair : Uuid
  deriving DecidableEq, Repr, Inhabited

/-- A job: synchronize one window of time for one key. -/
structure Job where
  id : Uuid
  key : SyncKey
  windowStart : Instant
  windowEnd : Instant
  payload : Json
  status : JobStatus
  priority : Int
  /-- The number of failed attempts. -/
  retryCount : Int
  /-- The number of failed attempts after which the job has failed. -/
  maxRetries : Int
  /-- The earliest time at which the job may be claimed. -/
  nextRunAt : Instant
  /-- The summary of the last failure. -/
  lastError : Option String
  /-- A token chosen by the caller; no two jobs carry the same one. -/
  idempotencyKey : Option String
  createdAt : Instant
  updatedAt : Instant
  deriving DecidableEq, Repr, Inhabited

/-- The text under `type` in a payload; it selects the executor. -/
def Payload.type? (payload : Json) : Option String := (payload.field? "type").bind Json.text?

/-- The payload type of a job. -/
def Job.payloadType? (job : Job) : Option String := Payload.type? job.payload

/-- One attempt of a job. -/
structure AttemptLog where
  jobId : Uuid
  key : SyncKey
  startedAt : Instant
  finishedAt : Instant
  processedEvents : Int
  failedEvents : Int
  outcome : Outcome
  errorSummary : Option String
  deriving DecidableEq, Repr, Inhabited

/-- The consecutive failures of a key. -/
structure FailureStat where
  key : SyncKey
  consecutiveFailures : Int
  lastFailureAt : Option Instant
  pausedUntil : Option Instant
  createdAt : Instant
  updatedAt : Instant
  deriving DecidableEq, Repr, Inhabited

/-- The largest count of failures that can be read back. -/
def FailureStat.maxCount : Int := Number.maxSigned 32

/-- The row can be read back: its count of failures is not too large. -/
def FailureStat.isReadable (stat : FailureStat) : Bool := stat.consecutiveFailures ≤ maxCount

/-- Jobs of the key may not be claimed at `now`: its pause ends later. -/
def FailureStat.isPaused (stat : FailureStat) (now : Instant) : Bool :=
  stat.pausedUntil.any fun until_ => decide (now < until_)

/-- An alert of the circuit breaker of a key. It is open until it is acknowledged. -/
structure Alert where
  key : SyncKey
  message : String
  acknowledged : Bool
  createdAt : Instant
  updatedAt : Instant
  deriving DecidableEq, Repr, Inhabited

/-- The alert is an open one of the key. -/
def Alert.isOpenFor (alert : Alert) (key : SyncKey) : Bool :=
  decide (alert.key = key) && !alert.acknowledged

end SyncQueue
