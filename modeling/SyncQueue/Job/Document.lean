import SyncQueue.Job.Row
import SyncQueue.Json.Schema

/-!
# Documents of rows

The documents in which rows travel. Times keep their offset from UTC. `Job.documentPayloadType?`,
`Job.documentIsTerminal` and `FailureStat.documentIsPaused` answer about a document in its canonical
form what is asked about the row.
-/

namespace SyncQueue

open Json (Schema)
open Time (Instant Zoned)

/-- The document of a job. -/
def Job.schema : Schema := [
  .required "id" .identifier,
  .required "pair_id" .identifier,
  .required "connector_id" .identifier,
  .required "window_start" .time,
  .required "window_end" .time,
  .required "payload" .anything,
  .required "status" (.oneOf (JobStatus.all.map (·.text))),
  .required "priority" .integer,
  .required "retry_count" .integer,
  .required "max_retries" .integer,
  .required "next_run_at" .time,
  .optional "last_error" .text,
  .optional "idempotency_key" .text,
  .required "created_at" .time,
  .required "updated_at" .time]

/-- The document of an attempt. -/
def AttemptLog.schema : Schema := [
  .required "id" .identifier,
  .required "job_id" .identifier,
  .required "pair_id" .identifier,
  .required "connector_id" .identifier,
  .required "started_at" .time,
  .required "finished_at" .time,
  .required "processed_events" .integer,
  .required "failed_events" .integer,
  .required "outcome" (.oneOf (Outcome.all.map (·.text))),
  .optional "error_summary" .text]

/-- The document of the failures of a key. -/
def FailureStat.schema : Schema := [
  .required "connector_id" .identifier,
  .required "pair_id" .identifier,
  .required "consecutive_failures" .integer,
  .optional "last_failure_at" .time,
  .optional "paused_until" .time,
  .required "created_at" .time,
  .required "updated_at" .time]

/-- The document of an alert. -/
def Alert.schema : Schema := [
  .required "id" .identifier,
  .required "category" (.oneOf ["circuit_breaker"]),
  .required "severity" (.oneOf ["critical"]),
  .required "connector_id" .identifier,
  .required "pair_id" .identifier,
  .required "message" .text,
  .required "acknowledged" .flag,
  .required "created_at" .time,
  .required "updated_at" .time]

/-- The payload type of the job of a document. -/
def Job.documentPayloadType? (document : Json) : Option String :=
  (document.field? "payload").bind Payload.type?

/-- The job of a document never changes again. -/
def Job.documentIsTerminal (document : Json) : Bool :=
  (((document.field? "status").bind Json.text?).bind JobStatus.ofText?).any (·.isTerminal)

/-- The key of a document is paused at a time. -/
def FailureStat.documentIsPaused (document : Json) (now : Zoned) : Bool :=
  (((document.field? "paused_until").bind Json.text?).bind fun s => Zoned.read? s.toList).any
    (·.isAfter now)

end SyncQueue
