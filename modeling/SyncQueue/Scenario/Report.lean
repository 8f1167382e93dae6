import SyncQueue.Job.Report
import SyncQueue.Json.Printer
import SyncQueue.Queue.Metrics
import SyncQueue.Queue.Scheduler
import SyncQueue.Scenario.Label

/-!
# Reports

What a scenario shows of errors, events and the store.
-/

namespace SyncQueue

open Time (Instant)

/-- The name of a kind of error. -/
def QueueError.kind : QueueError → String
  | .database .. => "Database"
  | .jobNotFound _ => "JobNotFound"
  | .invalidWindow .. => "InvalidWindow"
  | .invalidMaxRetries _ => "InvalidMaxRetries"
  | .telemetry _ => "Telemetry"

/-- The fields of an error of the queue. -/
def QueueError.fields (e : QueueError) : List (String × Json) := [
  ("error", .string e.kind),
  ("message", .string e.message),
  ("transient", .bool e.isTransient),
  ("unique", .bool e.isUniqueViolation)]

/-- The document of an error of the queue. -/
def QueueError.toJson (e : QueueError) : Json := .object e.fields

/-- The document of an error of the store. -/
def StoreError.toJson (e : StoreError) : Json :=
  .object [("error", .string "DbErr"), ("message", .string e.message)]

/-- The document of an answered request. -/
def ScheduledJob.toJson (s : ScheduledJob) : Json :=
  .object [("created", .bool s.created), ("job", s.job.toJson)]

/-- The document of the state of a key after a failure. -/
def FailureState.toJson (s : FailureState) : Json := .object [
  ("consecutive_failures", .integer s.consecutiveFailures),
  ("paused_until", .ofOption Instant.toJson s.pausedUntil),
  ("opened", .bool s.opened)]

/-- The document of an event; measurements that no sink records as such have none. -/
def Event.json? : Event → Option Json
  | .duration outcome => some (.array [.string "duration", .string outcome.text])
  | .status reached connector =>
    some (.array [.string "status", .string reached.text, connector.toJson])
  | .retry connector => some (.array [.string "retry", connector.toJson])
  | .refresh => some (.array [.string "refresh"])
  | .depth _ => none
  | .tick => none
  | .heartbeat .. => none

/-- The document of a line of the log that is not meant for debugging only. -/
def LogLine.json? (line : LogLine) : Option Json :=
  if line.level = .debug then none else some (.string (line.level.text ++ " " ++ line.message))

/-- The document of the values of series. -/
def Snapshot.toJson (s : Snapshot) : Json :=
  .object (s.map fun (series, value) => (series.text, .number value))

namespace Scenario

/-- The texts of some fields of a document, the key by which a report sorts it. -/
def sortKey (names : List String) (v : Json) : List String :=
  names.map fun name => ((v.field? name).getD .null).compactText

/-- Sort documents by the texts of some fields. -/
def sortedBy (names : List String) (vs : List Json) : List Json :=
  vs.mergeSort fun a b => (compare (sortKey names a) (sortKey names b)).isLE

/-- All rows, each kind in an order that does not depend on when they were inserted. Jobs show under
their labels, so the rows are relabelled before they are sorted. -/
def dump (t : Tables) (now : Instant) : Json :=
  let relabelled := List.map Label.relabelJson
  .object [
    ("jobs", .array <| sortedBy ["id"] <| relabelled <| t.jobs.map Job.toJson),
    ("logs", .array <|
      sortedBy ["job_id", "started_at", "finished_at", "outcome", "error_summary"] <|
        relabelled <| t.logs.map AttemptLog.toJson),
    ("stats", .array <| sortedBy ["connector_id", "pair_id"] <| t.stats.map (·.toJson now)),
    ("alerts", .array <|
      sortedBy ["connector_id", "pair_id", "created_at", "message"] <|
        t.alerts.map Alert.toJson)]

end Scenario

end SyncQueue
