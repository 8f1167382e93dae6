import SyncQueue.Queue.Backoff
import SyncQueue.Queue.Breaker
import SyncQueue.Queue.Error
import SyncQueue.Queue.Notice
import SyncQueue.Store.Statement
import SyncQueue.Store.Tables

/-!
# The world of the queue

What the code of the queue reads and changes: the tables, the clock, the log, the reported events
and the flags of the consumers. Everything the queue does not decide itself is a parameter: which
statements the store refuses (`Queue.faults`), the identifiers of new jobs, the random words behind
the delays, and the state `σ` of whatever surrounds the queue.

A computation of type `QueueM σ α` changes a world and ends with a value or an error. An error does
not undo changes; `transaction` puts the tables back as they were before it began, and nothing else.
-/

namespace SyncQueue

open Time (Instant)

/-! ## Log and events -/

/-- A line of the log: a notice, and the job during whose attempt it was given. -/
structure LogLine extends Notice where
  job : Option Job
  deriving DecidableEq, Repr

/-- An event reported to the metrics sink. -/
inductive Event where
  /-- A job was executed. -/
  | duration (outcome : Outcome)
  /-- An attempt left its job in a state. -/
  | status (status : JobStatus) (connector : Uuid)
  /-- A job will be tried again. -/
  | retry (connector : Uuid)
  /-- A refresh of the queue depth was asked for. -/
  | refresh
  /-- The queue depth was measured. -/
  | depth (count : List (JobStatus × Nat))
  /-- A tick ended. -/
  | tick
  /-- A worker showed that it lives. -/
  | heartbeat (worker : String) (at_ : Instant) (inFlight : Bool)
  deriving DecidableEq, Repr

/-! ## Worlds -/

/-- The flags of a consumer. -/
structure ConsumerFlags where
  /-- It has not been stopped. -/
  active : Bool
  /-- One of its ticks is running. -/
  ticking : Bool
  /-- It claims, executes or finalizes a job. -/
  inFlight : Bool
  deriving DecidableEq, Repr

/-- The flags of a new consumer. -/
def ConsumerFlags.fresh : ConsumerFlags := ⟨true, false, false⟩

/-- Everything that the queue reads and changes, and the state `σ` of what surrounds it. -/
structure World (σ : Type) where
  tables : Tables
  now : Instant
  flags : Nat → ConsumerFlags
  /-- The log, newest line first. -/
  log : List LogLine
  /-- The job whose attempt is under way. -/
  underway : Option Job
  /-- The events, newest first. -/
  events : List Event
  /-- An open transaction, and whether it has touched a row. -/
  transaction : Option Bool
  /-- The number of statements sent. -/
  issued : Nat
  /-- The number of failed operations reported. -/
  reported : Nat
  /-- The number of identifiers given to jobs. -/
  named : Nat
  /-- The number of random words used. -/
  drawn : Nat
  surroundings : σ

/-- A computation over a world. -/
abbrev QueueM (σ α : Type) := EStateM QueueError (World σ) α

/-- A computation that fails with errors of the store. -/
abbrev StoreM (σ α : Type) := EStateM StoreError (World σ) α

/-- Where the events of a queue go. -/
inductive Sink where
  /-- Every event is kept. -/
  | recording
  /-- Refreshing the queue depth fails with a text. -/
  | failing (text : String)
  /-- The queue depth is counted in the store. -/
  | metrics
  deriving DecidableEq, Repr

/-- The parameters of a queue. -/
structure Queue (σ : Type) where
  backoff : Backoff
  breaker : BreakerPolicy
  sink : Sink
  /-- The error with which the store refuses a statement, if it does. -/
  faults : World σ → Statement → Option StoreError
  /-- The identifier of the n-th job created by scheduling. -/
  jobId : Nat → Uuid
  /-- The n-th random word. -/
  word : Nat → Nat

variable {σ α : Type}

namespace World

/-- A world in which nothing has happened. -/
def initial (now : Instant) (tables : Tables) (surroundings : σ) : World σ where
  tables
  now
  flags := fun _ => .fresh
  log := []
  underway := none
  events := []
  transaction := none
  issued := 0
  reported := 0
  named := 0
  drawn := 0
  surroundings

/-- Add a notice to the log. -/
def logged (w : World σ) (notice : Notice) : World σ :=
  { w with log := ⟨notice, w.underway⟩ :: w.log }

/-- Report an event. -/
def emitted (w : World σ) (e : Event) : World σ := { w with events := e :: w.events }

/-- Set the flags of a consumer. -/
def withFlags (w : World σ) (consumer : Nat) (f : ConsumerFlags → ConsumerFlags) : World σ :=
  { w with flags := fun c => if c = consumer then f (w.flags c) else w.flags c }

end World

/-- Add a notice to the log. -/
def log (notice : Notice) : QueueM σ Unit := modify (·.logged notice)

/-- Report an event. -/
def emit (e : Event) : QueueM σ Unit := modify (·.emitted e)

/-- The time. -/
def clock : QueueM σ Instant := do return (← get).now

/-- Run a computation, and another one on its error. -/
def recover (x : QueueM σ α) (handle : QueueError → QueueM σ α) : QueueM σ α := fun w =>
  match x w with
  | .ok a w => .ok a w
  | .error e w => handle e w

/-- Run a computation and change the world afterwards, whether it failed or not. -/
def finallyModify (x : QueueM σ α) (f : World σ → World σ) : QueueM σ α := fun w =>
  match x w with
  | .ok a w => .ok a (f w)
  | .error e w => .error e (f w)

/-- Name the operation in which the store failed, and report the failure in the log. -/
def within (context : String) (x : StoreM σ α) : QueueM σ α := fun w =>
  match x w with
  | .ok a w => .ok a w
  | .error e w =>
    .error (.database context e)
      { w.logged .operationFailed with reported := w.reported + 1 }

namespace Queue

/-- Send a statement: the store may refuse it. -/
def send (q : Queue σ) (kind : StatementKind) (tables : List Table) (touches : Bool) :
    StoreM σ Unit := fun w =>
  let w := { w with issued := w.issued + 1 }
  match q.faults w ⟨kind, tables, touches, w.transaction.isSome⟩ with
  | some e => .error e w
  | none => .ok () w

/-- Read from tables. -/
def read (q : Queue σ) (tables : List Table) (f : Tables → α) : StoreM σ α := do
  q.send .read tables false
  return f (← get).tables

/-- Change a table. -/
def write (q : Queue σ) (kind : StatementKind) (table : Table) (touches : Tables → Bool)
    (f : Tables → Tables) : StoreM σ Unit := do
  let touched := touches (← get).tables
  q.send kind [table] touched
  modify fun w =>
    { w with tables := f w.tables, transaction := w.transaction.map (· || touched) }

/-- Change the job with an identifier. Without such a job this fails. The driver of the store sends
two statements, the change and a look at the changed row; they count as one here, which takes effect
or fails as a whole. Within a transaction that makes no difference. -/
def updateJob (q : Queue σ) (id : Uuid) (f : Job → Job) : StoreM σ Unit := do
  let found := ((← get).tables.job? id).isSome
  q.write .update .jobs (fun _ => found) (·.modifyJob id f)
  if found then pure () else throw .recordNotUpdated

/-- Add a job, unless it conflicts with another one. -/
def insertJob (q : Queue σ) (job : Job) : StoreM σ Unit := do
  q.send .insert [.jobs] true
  match (← get).tables.conflict? job with
  | some e => throw e
  | none =>
    modify fun w =>
      { w with tables := w.tables.insertJob job, transaction := w.transaction.map fun _ => true }

/-- Commit the open transaction. -/
def commit (q : Queue σ) (context : String) : QueueM σ Unit := do
  let touched := (← get).transaction.getD false
  within context (q.send .commit [] touched)

/-- Run a computation as one transaction. The computation commits; when it fails instead, at any
statement or at the commit, the tables are as they were before. -/
def transaction (q : Queue σ) (opening : String) (body : QueueM σ α) : QueueM σ α := fun w =>
  match within opening (q.send .begin [] false) w with
  | .error e w => .error e w
  | .ok _ opened =>
    match body { opened with transaction := some false } with
    | .ok a w => .ok a { w with transaction := none }
    | .error e w => .error e { w with transaction := none, tables := opened.tables }

/-- The next due time of a job after its `attempt`-th failure at `now`. -/
def drawNextRunAt (q : Queue σ) (attempt : Nat) (now : Instant) : QueueM σ Instant := do
  let w ← get
  if q.backoff.usesChance then set { w with drawn := w.drawn + 1 }
  return q.backoff.nextRunAt attempt now (q.word w.drawn)

end Queue

end SyncQueue
