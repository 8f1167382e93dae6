import SyncQueue.Queue.World

/-!
# Metrics

The events of a world as named series: counters, gauges and the sizes of histograms. `snapshot` is
the value of every series after all events. Only the metrics sink turns the events of jobs into
series; ticks and heartbeats are measured whatever the sink is.
-/

namespace SyncQueue

open Number (Binary64)
open Time (Instant)

/-- The kind of a series. -/
inductive SeriesKind where
  | counter
  | gauge
  /-- The number of values recorded in a histogram. -/
  | samples
  deriving DecidableEq, Repr

/-- A series: its kind, its name and its labels. -/
structure Series where
  kind : SeriesKind
  name : String
  labels : List (String × String)
  deriving DecidableEq, Repr

namespace Series

/-- The name of a kind. -/
def kindText : SeriesKind → String
  | .counter => "counter"
  | .gauge => "gauge"
  | .samples => "samples"

/-- The text of a series: kind and name, then the labels in braces. -/
def text (s : Series) : String :=
  let labels := s.labels.map fun (name, value) => name ++ "=" ++ value
  kindText s.kind ++ " " ++ s.name ++ "\x7b" ++ String.intercalate "," labels ++ "\x7d"

end Series

/-- A change of a series. -/
inductive Measurement where
  /-- One more. -/
  | increment (series : Series)
  /-- A new value. -/
  | set (series : Series) (value : Binary64)
  deriving DecidableEq, Repr

/-- Zero or one. -/
def truthValue (b : Bool) : Binary64 := .ofNat (if b then 1 else 0)

/-- An instant in seconds, with a resolution of a millisecond. -/
def secondsOf (t : Instant) : Binary64 := (Binary64.ofInt t.millis).div (.ofNat 1000)

/-- The measurements of an event of a job. -/
def Event.jobMeasurements : Event → List Measurement
  | .status reached connector =>
    [.increment ⟨.counter, "sync_job_status_total",
      [("status", reached.text), ("connector_id", connector.text)]⟩]
  | .retry connector =>
    [.increment ⟨.counter, "sync_job_retries_total", [("connector_id", connector.text)]⟩]
  | .duration outcome =>
    [.increment ⟨.samples, "sync_job_duration_seconds", [("outcome", outcome.text)]⟩]
  | .depth count =>
    count.map fun (state, n) =>
      .set ⟨.gauge, "sync_queue_depth", [("status", state.text)]⟩ (.ofNat n)
  | _ => []

/-- The measurements of an event, given a sink. -/
def Event.measurements (sink : Sink) : Event → List Measurement
  | .tick => [.increment ⟨.samples, "sync_consumer_tick_duration_ms", []⟩]
  | .heartbeat worker time inFlight =>
    let labels := [("worker_id", worker)]
    [.set ⟨.gauge, "sync_worker_heartbeat_timestamp_seconds", labels⟩ (secondsOf time),
      .set ⟨.gauge, "sync_worker_in_flight", labels⟩ (truthValue inFlight)]
  | e => if sink = .metrics then e.jobMeasurements else []

/-- The values of series. -/
abbrev Snapshot := List (Series × Binary64)

namespace Snapshot

/-- Change the value of a series; a new series comes last. -/
def update (s : Snapshot) (series : Series) (f : Binary64 → Binary64) : Snapshot :=
  if s.any (·.1 = series) then s.map fun p => if p.1 = series then (p.1, f p.2) else p
  else s ++ [(series, f (.ofNat 0))]

/-- Take a measurement into account. -/
def apply (s : Snapshot) : Measurement → Snapshot
  | .increment series => s.update series (·.add (.ofNat 1))
  | .set series value => s.update series fun _ => value

end Snapshot

/-- The value of every series after the events of a world. -/
def World.snapshot {σ : Type} (w : World σ) (sink : Sink) : Snapshot :=
  (w.events.reverse.flatMap (Event.measurements sink)).foldl Snapshot.apply []

end SyncQueue
