import SyncQueue.Queue.Worker
import SyncQueue.Scenario.Report
import SyncQueue.Scenario.Step

/-!
# Playing a scenario

`play` makes the steps of a scenario one after the other, beginning with an empty store, and reports
the result of each. Executors follow the script; the steps that they make during a call are made on
the same world. Since each call uses up an entry of the script, calls nest no deeper than the
scenario has entries, which bounds the recursion (`executorAt`).
-/

namespace SyncQueue.Scenario

open Number (Binary64)
open Time (Instant)

/-- Who executes the jobs of a payload type. -/
inductive Player where
  /-- An executor that follows the script under a name. -/
  | scripted (name : String)
  /-- The executor that does nothing. -/
  | idle
  deriving DecidableEq, Repr

/-- What a scenario presupposes. -/
structure Setup where
  backoff : Backoff
  breaker : BreakerPolicy
  sink : Sink
  defaultMaxRetries : Int
  /-- The executors by payload type; without any, one executor takes every job. -/
  players : Option (Registry Player)
  /-- Reports show the log. -/
  showsLog : Bool

/-- How many calls, events and lines of the log have been reported. -/
structure Seen where
  calls : Nat
  events : Nat
  lines : Nat

/-- The surroundings of a queue in a scenario. -/
structure Stage where
  script : List Entry
  /-- The documents of the calls, newest first. -/
  calls : List Json
  seen : Seen
  outage : Outage
  /-- The worker that is running. -/
  worker : Option Worker

/-- A computation that always has a result. -/
abbrev Play := StateM (World Stage)

/-- The surroundings before the first step. -/
def Stage.initial : Stage := ⟨[], [], ⟨0, 0, 0⟩, .healthy, none⟩

/-- The world before the first step. Its clock knows no leap seconds. -/
def initialWorld (now : Instant) : World Stage := .initial now.withoutLeap .empty .initial

/-- The random word that moves no delay. -/
def evenWord : Nat := Nat.pow 2 63

/-- The queue of a scenario. -/
def Setup.queue (setup : Setup) : Queue Stage where
  backoff := setup.backoff
  breaker := setup.breaker
  sink := setup.sink
  faults := fun w s => w.surroundings.outage.fault? w.reported s
  jobId := Label.id
  word := fun _ => evenWord

/-! ## Results -/

/-- The result of a step that only succeeds. -/
def done : Json := .object [("ok", .bool true)]

/-- A document with one field. -/
def single (name : String) (v : Json) : Json := .object [(name, v)]

/-- Show an error of the queue as a result. -/
def reply (x : QueueM Stage Json) : Play Json := fun w =>
  match x w with
  | .ok v w => (v, w)
  | .error e w => (e.toJson, w)

/-- Show an error of the store as a result. -/
def replyStore (x : StoreM Stage Json) : Play Json := fun w =>
  match x w with
  | .ok v w => (v, w)
  | .error e w => (e.toJson, w)

/-- The elements of a list, newest first, that come after the `seen` oldest, oldest first. -/
def since {α : Type} (seen : Nat) (newestFirst : List α) : List α :=
  (newestFirst.take (newestFirst.length - seen)).reverse

/-- Add to a result what was observed since the last such report. -/
def observed (setup : Setup) (quiet : Bool) (x : Play Json) : Play Json := do
  let result ← x
  if quiet then return result
  let w ← get
  let stage := w.surroundings
  let events := (since stage.seen.events w.events).filterMap Event.json?
  let lines := (since stage.seen.lines w.log).filterMap LogLine.json?
  set { w with
    surroundings.seen := ⟨stage.calls.length, w.events.length, w.log.length⟩ }
  let fields := match result with
    | .object fields => fields
    | _ => []
  return .object <| fields ++ [("calls", .array (since stage.seen.calls stage.calls))] ++
    (if setup.sink = .metrics then [] else [("events", .array events)]) ++
    if setup.showsLog then [("log", .array lines)] else []

/-! ## Steps on the store -/

/-- Change the surroundings. -/
def arrange (f : Stage → Stage) : Play Json := do
  modify fun w => { w with surroundings := f w.surroundings }
  return done

/-- Change the outage of the store. -/
def disturb (f : Outage → Outage) : Play Json :=
  arrange fun s => { s with outage := f s.outage }

/-- The error for a second statistics row of a key. -/
def duplicateStat : StoreError :=
  Tables.duplicate 1555
    "connector_failure_stats.connector_id, connector_failure_stats.pair_id"

/-- Add a statistics row behind the back of the queue. -/
def insertStat (q : Queue Stage) (stat : FailureStat) : StoreM Stage Json := do
  q.send .insert [.stats] true
  if ((← get).tables.stat? stat.key).isSome then throw duplicateStat
  modify fun w => { w with tables := w.tables.insertStat stat }
  return done

/-- Change a statistics row behind the back of the queue. -/
def updateStat (q : Queue Stage) (key : SyncKey) (change : StatChange) : StoreM Stage Json := do
  let found := ((← get).tables.stat? key).isSome
  q.updateStat key change.apply
  if found then
    Queue.checkStats ((← get).tables.stat? key).toList
    return done
  else throw .recordNotUpdated

/-- Delete a job and with it the log of its attempts. -/
def deleteJob (q : Queue Stage) (id : Uuid) : StoreM Stage Json := do
  let t := (← get).tables
  let found := (t.job? id).isSome
  q.send .delete (if (t.logsOf id).isEmpty then [.jobs] else [.jobs, .logs]) found
  modify fun w => { w with tables := w.tables.deleteJob id }
  return single "deleted" (.nat (if found then 1 else 0))

/-- Delete a statistics row. -/
def deleteStat (q : Queue Stage) (key : SyncKey) : StoreM Stage Json := do
  let found := ((← get).tables.stat? key).isSome
  q.write .delete .stats (fun _ => found) (·.deleteStat key)
  return single "deleted" (.nat (if found then 1 else 0))

/-- Remove the rows that go when a table is dropped: its own, and the log of attempts with the
jobs. -/
def withoutTable (t : Tables) : Table → Tables
  | .jobs => { t with jobs := [], logs := [] }
  | .logs => { t with logs := [] }
  | .stats => { t with stats := [] }
  | .alerts => { t with alerts := [] }

/-- Change the outage of the store behind the back of the queue. -/
def rearrange (f : Outage → Outage) : StoreM Stage Json := do
  modify fun w => { w with surroundings.outage := f w.surroundings.outage }
  return done

/-- Drop a table. The attempts of jobs are deleted before the jobs. -/
def dropTable (q : Queue Stage) (table : Table) : StoreM Stage Json := do
  if table = .jobs && !(← get).tables.logs.isEmpty then q.send .delete [.logs] true
  q.send .drop [table] true
  modify fun w => { w with tables := withoutTable w.tables table }
  rearrange (·.drop table)

/-- Refuse statements on a table. -/
def reject (q : Queue Stage) (r : Rejection) : StoreM Stage Json := do
  q.send .define [r.table] true
  rearrange (·.reject r)

/-- Accept statements on a table again. -/
def accept (q : Queue Stage) (table : Table) (kind : StatementKind) : StoreM Stage Json := do
  let rejected := ((← get).surroundings.outage.rejectionOf? table kind).isSome
  q.send .define [] rejected
  rearrange (·.accept table kind)

/-- The attempts of a job and the job of each; null without such a job. -/
def owners (q : Queue Stage) (id : Uuid) : StoreM Stage Json := do
  match ← q.read [.jobs] (·.job? id) with
  | none => return .null
  | some _ =>
    let logs ← q.read [.logs] (·.logsOf id)
    return .object [("logs", .array (logs.map AttemptLog.toJson)),
      ("owners", .array (logs.map (·.jobId.toJson)))]

/-- All rows. -/
def dumpAll (q : Queue Stage) : StoreM Stage Json := do
  let now := (← get).now
  for table in [Table.jobs, .logs, .stats, .alerts] do
    q.send .read [table] false
    if table = .stats then Queue.checkStats (← get).tables.stats
  return dump (← get).tables now

/-! ## Steps on the queue -/

/-- The document of an answer to a request. -/
def answerJson : Except QueueError ScheduledJob → Json
  | .ok s => s.toJson
  | .error e => e.toJson

/-- Exchange two identifiers in a job. -/
def exchange (a b : Uuid) (job : Job) : Job :=
  if job.id = a then { job with id := b }
  else if job.id = b then { job with id := a }
  else job

/-- The answers to two requests. When both have created a job, the job of the first request has the
first label, whichever was inserted first. -/
def answerBoth : Except QueueError ScheduledJob → Except QueueError ScheduledJob → Play Json
  | .ok s, .ok s' => do
    let (a, b) := (s.job.id, s'.job.id)
    if s.created && s'.created && decide (b.bits < a.bits) then
      modify fun w => { w with tables.jobs := w.tables.jobs.map (exchange a b) }
      return .array [{ s with job.id := b }.toJson, { s' with job.id := a }.toJson]
    else return .array [s.toJson, s'.toJson]
  | x, y => return .array [answerJson x, answerJson y]

/-- Claim several times. -/
def claims (q : Queue Stage) : Nat → Play (List Json)
  | 0 => return []
  | n + 1 => do
    let v ← reply do return Json.ofOption Job.toJson (← q.claim)
    return v :: (← claims q n)

/-- Whether a consumer is active. -/
def activity (consumer : Nat) : Play (String × Json) := do
  return ("active", .bool ((← get).flags consumer).active)

/-- Whether a consumer holds a job. -/
def occupation (consumer : Nat) : Play (String × Json) := do
  return ("processing", .bool ((← get).flags consumer).inFlight)

/-- The most ticks and attempts beyond those that the store accounts for. -/
def patience : Nat := 100000

/-- Process a stored job, whatever its state. -/
def processStored (setup : Setup) (executor : Executor Stage) (consumer : Nat) (id : Uuid)
    (quiet : Bool) : Play Json := fun w =>
  let q := setup.queue
  match q.getJob id w with
  | .error e w => (e.toJson, w)
  | .ok job w =>
    (observed setup quiet <| reply do
      return single "status" (.string (← q.processJob consumer executor job).text)) w

/-- The worker whose consumer is the first one. -/
def workerNamed (name : String) : Worker := ⟨name, 0⟩

/-- Run a worker; its consumer is new, and so are all consumers afterwards. -/
def runWorker (setup : Setup) (executor : Executor Stage) (name : String) (shutdownFirst : Bool) :
    Play Json := do
  let worker := workerNamed name
  modify fun w => { w.withFlags 0 fun _ => .fresh with surroundings.worker := some worker }
  let result ← reply do
    let finished ← worker.run setup.queue executor shutdownFirst patience Queue.untilIdle
      (pure ())
    return single "finished" (.bool finished)
  let fields := match result with
    | .object fields => fields
    | _ => []
  let fields := fields ++ [← activity 0, ← occupation 0, ("store_closed", .bool true)]
  modify fun w => { w with
    flags := fun _ => .fresh
    surroundings.worker := none
    surroundings.outage.closed := false }
  return .object fields

/-- Make a step; jobs are executed by the given executor. -/
def runStep (setup : Setup) (executor : Executor Stage) (step : Step) : Play Json := do
  let q := setup.queue
  let now := (← get).now
  match step with
  | .advance millis =>
    let now := (now.addMillis? millis).getD now
    modify fun w => { w with now }
    return single "now" now.toJson
  | .setNow time =>
    let now := time.withoutLeap
    modify fun w => { w with now }
    return single "now" now.toJson
  | .script entries =>
    let script := (← get).surroundings.script ++ entries
    let _ ← arrange fun s => { s with script }
    return single "queued" (.nat script.length)
  | .schedule request =>
    reply do return (← q.schedule setup.defaultMaxRetries request).toJson
  | .scheduleBoth first second =>
    let (p, p', w) := q.scheduleBoth setup.defaultMaxRetries first second (← get)
    set w
    match p.answer?, p'.answer? with
    | some x, some y => answerBoth x y
    | _, _ => return .null
  | .insertJob draft => replyStore do q.insertJob (draft.toJob now); return done
  | .insertStat key failures lastFailureAt pausedUntil =>
    replyStore (insertStat q ⟨key, failures, lastFailureAt, pausedUntil, now, now⟩)
  | .insertAlert key message acknowledged =>
    replyStore do
      q.write .insert .alerts (fun _ => true) (·.insertAlert ⟨key, message, acknowledged, now, now⟩)
      return done
  | .updateJob id change => replyStore do q.updateJob id change.apply; return done
  | .updateStat key change => replyStore (updateStat q key change)
  | .deleteJob id => replyStore (deleteJob q id)
  | .deleteStat key => replyStore (deleteStat q key)
  | .tick consumer quiet =>
    observed setup quiet <| reply do
      return single "processed" (.ofOption .nat (← q.tick consumer executor patience))
  | .run consumer =>
    observed setup false do
      let result ← reply do
        let stopped ← q.run consumer executor patience Queue.untilIdle (pure ())
        return single "returned" (.bool stopped)
      match result with
      | .object fields => return .object (fields ++ [← activity consumer])
      | v => return v
  | .claim times => return single "claimed" (.array (← claims q times))
  | .process consumer id quiet => processStored setup executor consumer id quiet
  | .stop consumer =>
    let _ ← reply do Queue.stop consumer; return done
    return .object [← activity consumer]
  | .state consumer => return .object [← activity consumer, ← occupation consumer]
  | .get id => reply do return (← q.getJob id).toJson
  | .find id => reply do return single "job" (.ofOption Job.toJson (← q.findJob id))
  | .findKey key => reply do return single "job" (.ofOption Job.toJson (← q.findByKey key))
  | .attempts id =>
    reply do return single "logs" (.array ((← q.attemptsOf id).map AttemptLog.toJson))
  | .owners id => replyStore (owners q id)
  | .counts =>
    reply do
      let counts := (← q.countByStatus).filter (·.2 != 0)
      return .object (counts.map fun (status, n) => (status.text, .nat n))
  | .stat key => reply do return single "stat" (.ofOption (·.toJson now) (← q.failureStat key))
  | .alerts key =>
    reply do return single "alerts" (.array ((← q.openAlerts key).map Alert.toJson))
  | .recordFailure key retryCount threshold pause time =>
    let policy : BreakerPolicy := {
      threshold := threshold.getD q.breaker.threshold
      pause := pause.getD q.breaker.pause }
    reply do return (← q.recordFailure policy key retryCount (time.getD now)).toJson
  | .recordSuccess key time =>
    reply do return single "cleared" (.nat (← q.recordSuccess key (time.getD now)))
  | .refresh => reply do q.refreshDepth; return done
  | .metrics => return ((← get).snapshot setup.sink).toJson
  | .dump => replyStore (dumpAll q)
  | .reject rejection => replyStore (reject q rejection)
  | .accept table kind => replyStore (accept q table kind)
  | .dropTable table => replyStore (dropTable q table)
  | .lock mode failures =>
    let reported := (← get).reported
    disturb (·.locked mode failures reported)
  | .unlock => disturb fun o => { o with lock := none }
  | .close => disturb fun o => { o with closed := true }
  | .worker name shutdownFirst =>
    observed setup false (runWorker setup executor name shutdownFirst)
  | .shutdown =>
    let _ ← reply do (workerNamed "").drain; return done
    return .object [← activity 0]
  | .awaitHeartbeat =>
    let worker := (← get).surroundings.worker.getD (workerNamed "")
    let _ ← reply do worker.heartbeat; return done
    return single "in_flight" (← occupation 0).2

/-- Make steps one after the other. -/
def runSteps (setup : Setup) (executor : Executor Stage) : List Step → Play (List Json)
  | [] => return []
  | step :: steps => do
    let v ← runStep setup executor step
    return v :: (← runSteps setup executor steps)

/-! ## Executors -/

/-- The document of a call. -/
def callJson (name : String) (job : Job) (processing : Bool) (before : List Json) : Json :=
  .object <| [
    ("executor", .string name),
    ("job", job.id.toJson),
    ("payload_type", .ofOption .string job.payloadType?),
    ("status", .string job.status.text),
    ("retry_count", .integer job.retryCount),
    ("processing", .bool processing)] ++
    if before.isEmpty then [] else [("before", .array before)]

/-- Replace the document of the n-th call, counted from the oldest. -/
def amendCall (n : Nat) (call : Json) (newestFirst : List Json) : List Json :=
  newestFirst.set (newestFirst.length - 1 - n) call

/-- Follow the script under a name: take the next entry, make its steps and give its answer. Jobs
processed by those steps are executed by `inner`; their calls come after this one. -/
def perform (setup : Setup) (inner : Executor Stage) (name : String) : Executor Stage
  | job, w =>
    let stage := w.surroundings
    let entry := stage.script.headD .default
    let call := callJson name job (w.flags 0).inFlight
    let (results, w) :=
      (runSteps setup inner entry.before).run { w with
        surroundings.script := stage.script.tail
        surroundings.calls := call [] :: stage.calls }
    let calls := amendCall stage.calls.length (call results) w.surroundings.calls
    (entry.answer, { w with surroundings.calls := calls })

/-- The executor of all jobs. -/
def cast (setup : Setup) (inner : Executor Stage) : Executor Stage :=
  match setup.players with
  | none => perform setup inner "main"
  | some players =>
    (players.map fun
      | .scripted name => perform setup inner name
      | .idle => .noop).executor

/-- The executor of all jobs when calls nest at most `depth` deep. -/
def executorAt (setup : Setup) : (depth : Nat) → Executor Stage
  | 0 => .noop
  | depth + 1 => cast setup (executorAt setup depth)

/-- The results of the steps of a scenario that begins at a time. -/
def play (setup : Setup) (now : Instant) (steps : List Step) : List Json :=
  let executor := executorAt setup (stepEntryCounts steps + 1)
  let results := ((runSteps setup executor steps).run (initialWorld now)).1
  results.map Label.relabelJson

end SyncQueue.Scenario
