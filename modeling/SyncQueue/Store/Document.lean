import SyncQueue.Job.Report
import SyncQueue.Store.Database
import SyncQueue.Time.Zoned

/-!
# Databases as documents

A database as a document that holds the names of the applied migrations and the rows of the four
tables, and the way back. Times are kept in UTC.
-/

namespace SyncQueue

open Time (Instant Zoned)

namespace Json

/-- A field read by a function. -/
def at? {α : Type} (v : Json) (name : String) (read? : Json → Option α) : Option α :=
  (v.field? name).bind read?

/-- A field that is null when there is no value. -/
def maybeAt? {α : Type} (v : Json) (name : String) (read? : Json → Option α) :
    Option (Option α) :=
  match v.field? name with
  | none | some .null => some none
  | some v => (read? v).map some

/-- The whole number, if the value is one. -/
def integer? : Json → Option Int
  | .integer i => some i
  | _ => none

/-- The truth value, if the value is one. -/
def flag? : Json → Option Bool
  | .bool b => some b
  | _ => none

/-- The values of a list, each read by a function. -/
def list? {α : Type} (read? : Json → Option α) : Json → Option (List α)
  | .array items => items.mapM read?
  | _ => none

end Json

/-- The identifier of a document. -/
def Uuid.ofJson? (v : Json) : Option Uuid := v.text?.bind fun s => Uuid.read? s.toList

/-- The instant of a document. -/
def Time.Instant.ofJson? (v : Json) : Option Instant :=
  v.text?.bind fun s => (Zoned.read? s.toList).map Zoned.instant

/-- The key in the document of a row. -/
def SyncKey.ofJson? (v : Json) : Option SyncKey := do
  return ⟨← v.at? "connector_id" Uuid.ofJson?, ← v.at? "pair_id" Uuid.ofJson?⟩

/-- The job of a document. -/
def Job.ofJson? (v : Json) : Option Job := do
  return {
    id := ← v.at? "id" Uuid.ofJson?
    key := ← SyncKey.ofJson? v
    windowStart := ← v.at? "window_start" Instant.ofJson?
    windowEnd := ← v.at? "window_end" Instant.ofJson?
    payload := ← v.field? "payload"
    status := ← v.at? "status" fun s => s.text?.bind JobStatus.ofText?
    priority := ← v.at? "priority" Json.integer?
    retryCount := ← v.at? "retry_count" Json.integer?
    maxRetries := ← v.at? "max_retries" Json.integer?
    nextRunAt := ← v.at? "next_run_at" Instant.ofJson?
    lastError := ← v.maybeAt? "last_error" Json.text?
    idempotencyKey := ← v.maybeAt? "idempotency_key" Json.text?
    createdAt := ← v.at? "created_at" Instant.ofJson?
    updatedAt := ← v.at? "updated_at" Instant.ofJson? }

/-- The attempt of a document. -/
def AttemptLog.ofJson? (v : Json) : Option AttemptLog := do
  return {
    jobId := ← v.at? "job_id" Uuid.ofJson?
    key := ← SyncKey.ofJson? v
    startedAt := ← v.at? "started_at" Instant.ofJson?
    finishedAt := ← v.at? "finished_at" Instant.ofJson?
    processedEvents := ← v.at? "processed_events" Json.integer?
    failedEvents := ← v.at? "failed_events" Json.integer?
    outcome := ← v.at? "outcome" fun s => s.text?.bind Outcome.ofText?
    errorSummary := ← v.maybeAt? "error_summary" Json.text? }

/-- The failures of a document. -/
def FailureStat.ofJson? (v : Json) : Option FailureStat := do
  return {
    key := ← SyncKey.ofJson? v
    consecutiveFailures := ← v.at? "consecutive_failures" Json.integer?
    lastFailureAt := ← v.maybeAt? "last_failure_at" Instant.ofJson?
    pausedUntil := ← v.maybeAt? "paused_until" Instant.ofJson?
    createdAt := ← v.at? "created_at" Instant.ofJson?
    updatedAt := ← v.at? "updated_at" Instant.ofJson? }

/-- The alert of a document. -/
def Alert.ofJson? (v : Json) : Option Alert := do
  return {
    key := ← SyncKey.ofJson? v
    message := ← v.at? "message" Json.text?
    acknowledged := ← v.at? "acknowledged" Json.flag?
    createdAt := ← v.at? "created_at" Instant.ofJson?
    updatedAt := ← v.at? "updated_at" Instant.ofJson? }

namespace Tables

/-- The fields of the document of the tables. -/
def fields (t : Tables) : List (String × Json) := [
  (Table.jobs.name, .array (t.jobs.map Job.toJson)),
  (Table.logs.name, .array (t.logs.map AttemptLog.toJson)),
  (Table.stats.name, .array (t.stats.map fun stat => .object stat.fields)),
  (Table.alerts.name, .array (t.alerts.map Alert.toJson))]

/-- The tables of a document. -/
def ofJson? (v : Json) : Option Tables := do
  return {
    jobs := ← v.at? Table.jobs.name (Json.list? Job.ofJson?)
    logs := ← v.at? Table.logs.name (Json.list? AttemptLog.ofJson?)
    stats := ← v.at? Table.stats.name (Json.list? FailureStat.ofJson?)
    alerts := ← v.at? Table.alerts.name (Json.list? Alert.ofJson?) }

end Tables

namespace Database

/-- The document of a database. -/
def toJson (d : Database) : Json :=
  .object (("migrations", .array (d.schema.applied.map .string)) :: d.tables.fields)

/-- The database of a document: the migrations that it names have been applied in order. -/
def ofJson? (v : Json) : Option Database := do
  let names ← v.at? "migrations" (Json.list? Json.text?)
  let applied := Migration.all.filter (names.contains ·.name)
  return ⟨(MigratedDatabase.empty.applyAll applied).1, ← Tables.ofJson? v⟩

end Database

end SyncQueue
