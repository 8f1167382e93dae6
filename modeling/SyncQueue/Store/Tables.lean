import SyncQueue.Job.Row
import SyncQueue.Store.Error

/-!
# Tables

The four tables of the queue, each a list of rows in the order of insertion, and the queries and
changes that the queue makes. A change that finds no row leaves the tables as they are.

`isEligible` says which jobs may be claimed and `best?` which of them is claimed.
-/

namespace SyncQueue

open Time (Instant)

/-- The tables of the queue. -/
structure Tables where
  jobs : List Job
  logs : List AttemptLog
  stats : List FailureStat
  alerts : List Alert
  deriving DecidableEq, Repr, Inhabited

namespace Tables

/-- No rows. -/
def empty : Tables := ⟨[], [], [], []⟩

/-- Change the first row that satisfies a condition. -/
def modifyFirst {α : Type} (p : α → Bool) (f : α → α) : List α → List α
  | [] => []
  | a :: as => if p a then f a :: as else a :: modifyFirst p f as

/-- Change every row that satisfies a condition. -/
def modifyAll {α : Type} (p : α → Bool) (f : α → α) (rows : List α) : List α :=
  rows.map fun a => if p a then f a else a

/-! ## Jobs -/

/-- The job with an identifier. -/
def job? (t : Tables) (id : Uuid) : Option Job := t.jobs.find? (·.id = id)

/-- The job that carries an idempotency key. -/
def jobByKey? (t : Tables) (key : String) : Option Job :=
  t.jobs.find? (·.idempotencyKey = some key)

/-- Change the job with an identifier. -/
def modifyJob (t : Tables) (id : Uuid) (f : Job → Job) : Tables :=
  { t with jobs := modifyFirst (·.id = id) f t.jobs }

/-- The error for a value that another row of a unique column holds. -/
def duplicate (code : Nat) (column : String) : StoreError :=
  .execution (.coded code ("UNIQUE constraint failed: " ++ column))

/-- Why a job cannot be added: another one has its idempotency key or, looked at second, its
identifier. -/
def conflict? (t : Tables) (job : Job) : Option StoreError :=
  if job.idempotencyKey.any fun key => (t.jobByKey? key).isSome then
    some (duplicate 2067 "sync_jobs.idempotency_key")
  else if (t.job? job.id).isSome then some (duplicate 1555 "sync_jobs.id")
  else none

/-- Add a job. -/
def insertJob (t : Tables) (job : Job) : Tables := { t with jobs := t.jobs ++ [job] }

/-- Remove a job and the log of its attempts. -/
def deleteJob (t : Tables) (id : Uuid) : Tables :=
  { t with jobs := t.jobs.filter (·.id != id), logs := t.logs.filter (·.jobId != id) }

/-- The number of jobs in a state. -/
def countByStatus (t : Tables) (status : JobStatus) : Nat := t.jobs.countP (·.status = status)

/-! ## Windows -/

/-- The job covers the same window for the same key and is active. -/
def coversWindow (key : SyncKey) (start stop : Instant) (job : Job) : Bool :=
  decide (job.key = key) && decide (job.windowStart = start) && decide (job.windowEnd = stop) &&
    job.status.isActive

/-- The first of the rows that come before all others in a strict order. -/
def first? {α : Type} (before : α → α → Bool) : List α → Option α
  | [] => none
  | a :: as =>
    match first? before as with
    | none => some a
    | some b => if before b a then some b else some a

/-- The job was created before another, or at the same time and its state is named first. -/
def createdBefore (a b : Job) : Bool :=
  a.createdAt.storedLt b.createdAt ||
    (decide (a.createdAt = b.createdAt) && decide (a.status.text < b.status.text))

/-- The active job of a window that was created first. -/
def activeInWindow? (t : Tables) (key : SyncKey) (start stop : Instant) : Option Job :=
  first? createdBefore (t.jobs.filter (coversWindow key start stop))

/-! ## Claiming -/

/-- The statistics row of a key. -/
def stat? (t : Tables) (key : SyncKey) : Option FailureStat := t.stats.find? (·.key = key)

/-- Claiming is paused for a key: the end of its pause is stored as later than now. -/
def isPausedAt (t : Tables) (key : SyncKey) (now : Instant) : Bool :=
  t.stats.any fun s => decide (s.key = key) && s.pausedUntil.any now.storedLt

/-- A consumer may claim the job now: it is claimable, due and not paused. -/
def isEligible (t : Tables) (now : Instant) (job : Job) : Bool :=
  job.status.isClaimable && job.nextRunAt.storedLe now && !t.isPausedAt job.key now

/-- The order of claiming: higher priority first, then the earlier due time. -/
def claimedBefore (a b : Job) : Bool :=
  decide (b.priority < a.priority) ||
    (decide (a.priority = b.priority) && a.nextRunAt.storedLt b.nextRunAt)

/-- The job to claim next. -/
def best? (t : Tables) (now : Instant) : Option Job :=
  first? claimedBefore (t.jobs.filter (t.isEligible now))

/-! ## Log, statistics and alerts -/

/-- Add an attempt to the log. -/
def appendLog (t : Tables) (log : AttemptLog) : Tables := { t with logs := t.logs ++ [log] }

/-- The attempts of a job, oldest first. -/
def logsOf (t : Tables) (id : Uuid) : List AttemptLog :=
  (t.logs.filter (·.jobId = id)).mergeSort fun a b => a.startedAt.storedLe b.startedAt

/-- Add a statistics row. -/
def insertStat (t : Tables) (stat : FailureStat) : Tables := { t with stats := t.stats ++ [stat] }

/-- Change the statistics row of a key. -/
def modifyStat (t : Tables) (key : SyncKey) (f : FailureStat → FailureStat) : Tables :=
  { t with stats := modifyFirst (·.key = key) f t.stats }

/-- Remove the statistics row of a key. -/
def deleteStat (t : Tables) (key : SyncKey) : Tables :=
  { t with stats := t.stats.filter (·.key != key) }

/-- The open alerts of a key, oldest first. -/
def openAlerts (t : Tables) (key : SyncKey) : List Alert :=
  (t.alerts.filter (·.isOpenFor key)).mergeSort fun a b => a.createdAt.storedLe b.createdAt

/-- Some alert of a key is open. -/
def hasOpenAlert (t : Tables) (key : SyncKey) : Bool := t.alerts.any (·.isOpenFor key)

/-- Add an alert. -/
def insertAlert (t : Tables) (alert : Alert) : Tables := { t with alerts := t.alerts ++ [alert] }

/-- Change the first open alert of a key. -/
def modifyOpenAlert (t : Tables) (key : SyncKey) (f : Alert → Alert) : Tables :=
  { t with alerts := modifyFirst (·.isOpenFor key) f t.alerts }

/-- Change every open alert of a key. -/
def modifyOpenAlerts (t : Tables) (key : SyncKey) (f : Alert → Alert) : Tables :=
  { t with alerts := modifyAll (·.isOpenFor key) f t.alerts }

end Tables

end SyncQueue
