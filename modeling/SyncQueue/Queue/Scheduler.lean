import SyncQueue.Queue.Queries

/-!
# Scheduling

A request to synchronize a window becomes a job, unless it repeats an earlier one: a job with the
same idempotency key is returned instead, or else an active job for the same key and window.

A request is served by up to four statements: look up the idempotency key, look up the window,
insert, and read again when the insert loses a race. `schedule` sends them one after the other.
`Phase` is the same service one statement at a time, so that several requests can be interleaved
(`scheduleBoth`).
-/

namespace SyncQueue

open Time (Instant)

/-- A request to synchronize a window. -/
structure ScheduleRequest where
  key : SyncKey
  windowStart : Instant
  windowEnd : Instant
  priority : Option Int
  payload : Option Json
  idempotencyKey : Option String
  maxRetries : Option Int
  /-- The earliest time at which the job may be claimed. -/
  runAt : Option Instant
  deriving DecidableEq, Repr

/-- The job that serves a request. -/
structure ScheduledJob where
  job : Job
  /-- The job was created for this request. -/
  created : Bool
  deriving DecidableEq, Repr

variable {σ : Type}

namespace ScheduleRequest

/-- The job that a request asks for. -/
def toJob (r : ScheduleRequest) (id : Uuid) (maxRetries : Int) (now : Instant) : Job where
  id
  key := r.key
  windowStart := r.windowStart
  windowEnd := r.windowEnd
  payload := r.payload.getD (.object [])
  status := .pending
  priority := r.priority.getD 0
  retryCount := 0
  maxRetries
  nextRunAt := r.runAt.getD now
  lastError := none
  idempotencyKey := r.idempotencyKey
  createdAt := now
  updatedAt := now

/-- The number of retries of a request, or why it is refused. -/
def validate (r : ScheduleRequest) (defaultMaxRetries : Int) : Except QueueError Int :=
  if r.windowEnd ≤ r.windowStart then .error (.invalidWindow r.windowStart r.windowEnd)
  else
    let maxRetries := r.maxRetries.getD defaultMaxRetries
    if maxRetries < 1 then .error (.invalidMaxRetries maxRetries) else .ok maxRetries

end ScheduleRequest

/-- What became of an insert. -/
inductive Insertion where
  | created (job : Job)
  /-- Another row has the idempotency key or the identifier. -/
  | duplicate (cause : StoreError)
  deriving DecidableEq, Repr

namespace Queue

/-- The job that carries the idempotency key of a request. A request without one sends nothing. -/
def lookupKey (q : Queue σ) (r : ScheduleRequest) : QueueM σ (Option Job) :=
  match r.idempotencyKey with
  | some key => do
    let found ← q.findByKey key
    if found.isSome then log .keyAnswered
    return found
  | none => return none

/-- The active job for the window of a request. -/
def lookupWindow (q : Queue σ) (r : ScheduleRequest) : QueueM σ (Option Job) := do
  let found ← within "failed to look up active sync job" <|
    q.read [.jobs] (·.activeInWindow? r.key r.windowStart r.windowEnd)
  if found.isSome then log .windowAnswered
  return found

/-- Insert the job of a request under a fresh identifier. -/
def insertNew (q : Queue σ) (r : ScheduleRequest) (maxRetries : Int) : QueueM σ Insertion :=
  fun w =>
    let job := r.toJob (q.jobId w.named) maxRetries w.now
    match q.insertJob job w with
    | .ok () w =>
      .ok (.created job)
        ({ w with named := w.named + 1 }.logged .jobScheduled)
    | .error e w =>
      if e.isUniqueViolation then .ok (.duplicate e) w
      else within "failed to schedule sync job" (throw e) w

/-- Read the job that won the race for the idempotency key of a request. -/
def readWinner (q : Queue σ) (r : ScheduleRequest) (cause : StoreError) :
    QueueM σ ScheduledJob := do
  match ← q.findByKey (r.idempotencyKey.getD "") with
  | some job => return ⟨job, false⟩
  | none => throw (.database "failed to schedule sync job" cause)

/-- Serve a request that no earlier job answers. -/
def serveByInsert (q : Queue σ) (r : ScheduleRequest) (maxRetries : Int) :
    QueueM σ ScheduledJob := do
  match ← q.insertNew r maxRetries with
  | .created job => return ⟨job, true⟩
  | .duplicate cause => q.readWinner r cause

/-- Serve a request that no idempotency key answers. -/
def serveByWindow (q : Queue σ) (r : ScheduleRequest) (maxRetries : Int) :
    QueueM σ ScheduledJob := do
  match ← q.lookupWindow r with
  | some job => return ⟨job, false⟩
  | none => q.serveByInsert r maxRetries

/-- Serve a request. -/
def schedule (q : Queue σ) (defaultMaxRetries : Int) (r : ScheduleRequest) :
    QueueM σ ScheduledJob := do
  match r.validate defaultMaxRetries with
  | .error e => throw e
  | .ok maxRetries =>
    match ← q.lookupKey r with
    | some job => return ⟨job, false⟩
    | none => q.serveByWindow r maxRetries

end Queue

/-! ## One statement at a time -/

/-- How far the service of a request has come. -/
inductive Phase where
  /-- Next the idempotency key is looked up. -/
  | key (maxRetries : Int)
  /-- Next the window is looked up. -/
  | window (maxRetries : Int)
  /-- Next the job is inserted. -/
  | insert (maxRetries : Int)
  /-- The insert was refused; next the winner is read. -/
  | winner (cause : StoreError)
  /-- The request has been answered. -/
  | done (answer : Except QueueError ScheduledJob)

namespace Phase

/-- The first phase of a request. -/
def start (defaultMaxRetries : Int) (r : ScheduleRequest) : Phase :=
  match r.validate defaultMaxRetries with
  | .error e => .done (.error e)
  | .ok maxRetries => if r.idempotencyKey.isSome then .key maxRetries else .window maxRetries

/-- Go on with the value of a statement, or end with its error. -/
def advance {α : Type} (x : QueueM σ α) (next : α → Phase) (w : World σ) : Phase × World σ :=
  match x w with
  | .ok a w => (next a, w)
  | .error e w => (.done (.error e), w)

/-- A job found by a lookup answers the request. -/
def orFound (next : Phase) : Option Job → Phase
  | some job => .done (.ok ⟨job, false⟩)
  | none => next

/-- Send the next statement. -/
def step (q : Queue σ) (r : ScheduleRequest) : Phase → World σ → Phase × World σ
  | .key n, w => advance (q.lookupKey r) (orFound (.window n)) w
  | .window n, w => advance (q.lookupWindow r) (orFound (.insert n)) w
  | .insert n, w =>
    advance (q.insertNew r n) (fun
      | .created job => .done (.ok ⟨job, true⟩)
      | .duplicate cause => .winner cause) w
  | .winner cause, w => advance (q.readWinner r cause) (fun s => .done (.ok s)) w
  | .done answer, w => (.done answer, w)

/-- The answer, once there is one. -/
def answer? : Phase → Option (Except QueueError ScheduledJob)
  | .done answer => some answer
  | _ => none

end Phase

/-- Serve two requests at the same time: they send their statements in turn, the first one first. A
request needs at most four. -/
def Queue.scheduleBoth (q : Queue σ) (defaultMaxRetries : Int) (r s : ScheduleRequest)
    (w : World σ) : Phase × Phase × World σ :=
  let turn : Phase × Phase × World σ → Phase × Phase × World σ := fun (p, p', w) =>
    let (p, w) := p.step q r w
    let (p', w) := p'.step q s w
    (p, p', w)
  turn (turn (turn (turn (Phase.start defaultMaxRetries r, Phase.start defaultMaxRetries s, w))))

end SyncQueue
