import SyncQueue.Queue.World

/-!
# Queries

What callers may ask about the queue. Each query reads once and names itself when the store fails.
-/

namespace SyncQueue

variable {σ : Type}

namespace Queue

/-- The job with an identifier, if there is one. -/
def findJob (q : Queue σ) (id : Uuid) : QueueM σ (Option Job) :=
  within "failed to find sync job" (q.read [.jobs] (·.job? id))

/-- The job with an identifier. -/
def getJob (q : Queue σ) (id : Uuid) : QueueM σ Job := do
  match ← q.findJob id with
  | some job => return job
  | none => throw (.jobNotFound id)

/-- The job that carries an idempotency key. -/
def findByKey (q : Queue σ) (key : String) : QueueM σ (Option Job) :=
  within "failed to find sync job by idempotency key" (q.read [.jobs] (·.jobByKey? key))

/-- The attempts of a job, oldest first. -/
def attemptsOf (q : Queue σ) (id : Uuid) : QueueM σ (List AttemptLog) :=
  within "failed to list sync job logs" (q.read [.logs] (·.logsOf id))

/-- The number of jobs in each state. -/
def countByStatus (q : Queue σ) : QueueM σ (List (JobStatus × Nat)) :=
  within "failed to count sync jobs by status" <|
    q.read [.jobs] fun t => JobStatus.all.map fun s => (s, t.countByStatus s)

/-- Refuse statistics rows that cannot be read back. -/
def checkStats (stats : List FailureStat) : StoreM σ Unit :=
  if stats.all (·.isReadable) then pure () else throw (.tooLarge "consecutive_failures")

/-- The failures of a key. -/
def failureStat (q : Queue σ) (key : SyncKey) : QueueM σ (Option FailureStat) :=
  within "failed to load connector failure stat" do
    let stat ← q.read [.stats] (·.stat? key)
    checkStats stat.toList
    return stat

/-- The open alerts of a key, oldest first. -/
def openAlerts (q : Queue σ) (key : SyncKey) : QueueM σ (List Alert) :=
  within "failed to list circuit breaker alerts" (q.read [.alerts] (·.openAlerts key))

end Queue

end SyncQueue
