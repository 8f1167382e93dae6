import SyncQueue.Job.Execution
import SyncQueue.Queue.Scheduler
import SyncQueue.Store.Outage

/-!
# Steps of a scenario

A scenario is a list of steps: calls of the queue, changes of its rows behind its back, movements of
the clock and outages of the store. A script tells the executors what to answer to each call and
which steps to make before.
-/

namespace SyncQueue.Scenario

open Time (Delta Instant)

/-- A job to insert; what is missing has a default that may depend on the time. -/
structure JobDraft where
  id : Uuid
  key : SyncKey
  windowStart : Option Instant
  windowEnd : Option Instant
  payload : Json
  status : JobStatus
  priority : Int
  retryCount : Int
  maxRetries : Int
  nextRunAt : Option Instant
  lastError : Option String
  idempotencyKey : Option String
  createdAt : Option Instant
  updatedAt : Option Instant
  deriving DecidableEq, Repr

/-- A day in milliseconds. -/
def dayMillis : Int := 86400000

/-- The job of a draft. By default its window is the day that ends now, and it is due now. -/
def JobDraft.toJob (d : JobDraft) (now : Instant) : Job where
  id := d.id
  key := d.key
  windowStart := d.windowStart.getD ((now.addMillis? (-dayMillis)).getD now)
  windowEnd := d.windowEnd.getD now
  payload := d.payload
  status := d.status
  priority := d.priority
  retryCount := d.retryCount
  maxRetries := d.maxRetries
  nextRunAt := d.nextRunAt.getD now
  lastError := d.lastError
  idempotencyKey := d.idempotencyKey
  createdAt := d.createdAt.getD now
  updatedAt := d.updatedAt.getD now

/-- A change of a job. -/
structure JobChange where
  status : Option JobStatus
  nextRunAt : Option Instant
  retryCount : Option Int
  priority : Option Int
  deriving DecidableEq, Repr

/-- Apply a change to a job. -/
def JobChange.apply (c : JobChange) (job : Job) : Job :=
  { job with
    status := c.status.getD job.status
    nextRunAt := c.nextRunAt.getD job.nextRunAt
    retryCount := c.retryCount.getD job.retryCount
    priority := c.priority.getD job.priority }

/-- A change of a statistics row. -/
structure StatChange where
  failures : Option Int
  pausedUntil : Option (Option Instant)
  deriving DecidableEq, Repr

/-- Apply a change to a statistics row. -/
def StatChange.apply (c : StatChange) (stat : FailureStat) : FailureStat :=
  { stat with
    consecutiveFailures := c.failures.getD stat.consecutiveFailures
    pausedUntil := c.pausedUntil.getD stat.pausedUntil }

mutual

/-- A step of a scenario. -/
inductive Step where
  /-- Move the clock by milliseconds. -/
  | advance (millis : Int)
  | setNow (time : Instant)
  /-- Append to the script. -/
  | script (entries : List Entry)
  | schedule (request : ScheduleRequest)
  /-- Two requests at the same time. -/
  | scheduleBoth (first second : ScheduleRequest)
  | insertJob (draft : JobDraft)
  | insertStat (key : SyncKey) (failures : Int) (lastFailureAt pausedUntil : Option Instant)
  | insertAlert (key : SyncKey) (message : String) (acknowledged : Bool)
  | updateJob (id : Uuid) (change : JobChange)
  | updateStat (key : SyncKey) (change : StatChange)
  | deleteJob (id : Uuid)
  | deleteStat (key : SyncKey)
  /-- A quiet step does not report what was observed. -/
  | tick (consumer : Nat) (quiet : Bool)
  | run (consumer : Nat)
  | claim (times : Nat)
  | process (consumer : Nat) (id : Uuid) (quiet : Bool)
  | stop (consumer : Nat)
  | state (consumer : Nat)
  | get (id : Uuid)
  | find (id : Uuid)
  | findKey (key : String)
  | attempts (id : Uuid)
  /-- The attempts of a job and the job of each. -/
  | owners (id : Uuid)
  | counts
  | stat (key : SyncKey)
  | alerts (key : SyncKey)
  /-- Record a failure under a policy that may differ from the usual one. -/
  | recordFailure (key : SyncKey) (retryCount : Int) (threshold : Option Int)
      (pause : Option Delta) (time : Option Instant)
  | recordSuccess (key : SyncKey) (time : Option Instant)
  | refresh
  | metrics
  | dump
  | reject (rejection : Rejection)
  | accept (table : Table) (kind : StatementKind)
  | dropTable (table : Table)
  | lock (mode : LockMode) (failures : Option Nat)
  | unlock
  | close
  | worker (name : String) (shutdownFirst : Bool)
  /-- Request the shutdown of the running worker. -/
  | shutdown
  /-- Wait until the running worker has reported that it holds a job. -/
  | awaitHeartbeat

/-- An entry of the script: steps to make during the call, and the answer. -/
inductive Entry where
  | mk (before : List Step) (answer : Answer)

end

namespace Entry

/-- The steps made during the call. -/
def before : Entry → List Step
  | mk before _ => before

/-- The answer to the call. -/
def answer : Entry → Answer
  | mk _ answer => answer

/-- What executors do when the script has run out: succeed with one event. -/
def default : Entry := mk [] (.result (.success 1 0))

end Entry

mutual

/-- The number of script entries in a step, those of its entries' own steps included. -/
def Step.entryCount : Step → Nat
  | .script entries => entryCounts entries
  | _ => 0

/-- The number of script entries in a list of entries. -/
def entryCounts : List Entry → Nat
  | [] => 0
  | .mk before _ :: entries => 1 + stepEntryCounts before + entryCounts entries

/-- The number of script entries in a list of steps. -/
def stepEntryCounts : List Step → Nat
  | [] => 0
  | step :: steps => step.entryCount + stepEntryCounts steps

end

end SyncQueue.Scenario
