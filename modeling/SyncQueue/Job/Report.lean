import SyncQueue.Job.Row

/-!
# Rows as documents

How rows are shown. Times are shown in UTC, and a missing value as null.
-/

namespace SyncQueue

open Time (Instant)

/-- An identifier as a document. -/
def Uuid.toJson (u : Uuid) : Json := .string u.text

/-- An instant as a document. -/
def Time.Instant.toJson (t : Instant) : Json := .string t.text

/-- The document of a job. -/
def Job.toJson (job : Job) : Json := .object [
  ("id", job.id.toJson),
  ("pair_id", job.key.pair.toJson),
  ("connector_id", job.key.connector.toJson),
  ("window_start", job.windowStart.toJson),
  ("window_end", job.windowEnd.toJson),
  ("payload", job.payload),
  ("status", .string job.status.text),
  ("priority", .integer job.priority),
  ("retry_count", .integer job.retryCount),
  ("max_retries", .integer job.maxRetries),
  ("next_run_at", job.nextRunAt.toJson),
  ("last_error", .ofOption .string job.lastError),
  ("idempotency_key", .ofOption .string job.idempotencyKey),
  ("created_at", job.createdAt.toJson),
  ("updated_at", job.updatedAt.toJson)]

/-- The document of an attempt. -/
def AttemptLog.toJson (log : AttemptLog) : Json := .object [
  ("job_id", log.jobId.toJson),
  ("pair_id", log.key.pair.toJson),
  ("connector_id", log.key.connector.toJson),
  ("started_at", log.startedAt.toJson),
  ("finished_at", log.finishedAt.toJson),
  ("processed_events", .integer log.processedEvents),
  ("failed_events", .integer log.failedEvents),
  ("outcome", .string log.outcome.text),
  ("error_summary", .ofOption .string log.errorSummary)]

/-- The fields of the document of the failures of a key. -/
def FailureStat.fields (stat : FailureStat) : List (String × Json) := [
  ("connector_id", stat.key.connector.toJson),
  ("pair_id", stat.key.pair.toJson),
  ("consecutive_failures", .integer stat.consecutiveFailures),
  ("last_failure_at", .ofOption Instant.toJson stat.lastFailureAt),
  ("paused_until", .ofOption Instant.toJson stat.pausedUntil),
  ("created_at", stat.createdAt.toJson),
  ("updated_at", stat.updatedAt.toJson)]

/-- The document of the failures of a key, and whether the key is paused at a time. -/
def FailureStat.toJson (stat : FailureStat) (now : Instant) : Json :=
  .object (stat.fields ++ [("is_paused", .bool (stat.isPaused now))])

/-- The document of an alert. -/
def Alert.toJson (alert : Alert) : Json := .object [
  ("category", .string "circuit_breaker"),
  ("severity", .string "critical"),
  ("connector_id", alert.key.connector.toJson),
  ("pair_id", alert.key.pair.toJson),
  ("message", .string alert.message),
  ("acknowledged", .bool alert.acknowledged),
  ("created_at", alert.createdAt.toJson),
  ("updated_at", alert.updatedAt.toJson)]

end SyncQueue
