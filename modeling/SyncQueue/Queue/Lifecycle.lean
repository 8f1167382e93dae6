import SyncQueue.Queue.Attempt
import SyncQueue.Queue.Worker

/-!
# The life of a worker

The loop of a worker's consumer and the shutdown of the worker go on at the same time and share the
flags of the consumer. `LoopPoint.step` makes the loop one step at a time, as `AttemptStage.step`
does an attempt. A `Lifecycle` is where both stand, with the world around them. `Lifecycle.Step` is
one step of either, a call that stops the consumer from outside, or a change of the world by others.
-/

namespace SyncQueue

variable {σ : Type}

/-! ## The loop -/

/-- Where the loop of a consumer stands; each point is named for the step that comes next. Inside a
tick the loop knows the number of jobs processed. -/
inductive LoopPoint where
  /-- Look whether the consumer is active, before a tick. -/
  | poll
  /-- Look whether the consumer is active, at the beginning of a tick. -/
  | enter
  /-- Take the mark of the running tick. -/
  | lock
  /-- Look whether the consumer is active, before a claim. -/
  | test (processed : Nat)
  /-- Mark the consumer as in flight. -/
  | mark (processed : Nat)
  /-- Begin a claim. -/
  | claim (processed : Nat)
  /-- End the claim. -/
  | claiming (processed : Nat)
  /-- Mark the consumer as in flight for the attempt of the claimed job. -/
  | start (processed : Nat) (job : Job)
  /-- Go on with the attempt, which began while the attempt of another job may have been under
  way. -/
  | attempt (processed : Nat) (job : Job) (around : Option Job) (stage : AttemptStage)
  /-- Mark the consumer as idle after the attempt. -/
  | unmark (processed : Nat) (answer : Except QueueError JobStatus)
  /-- Mark the consumer as idle, and go on with the tick. -/
  | again (processed : Nat)
  /-- Mark the consumer as idle, and end the tick. -/
  | leave (outcome : Except QueueError Nat)
  /-- Give back the mark of the running tick. -/
  | unlock (outcome : Except QueueError Nat)
  /-- The tick has ended; report how. -/
  | ended (outcome : Except QueueError Nat)
  /-- Sleep until the next tick, or until the consumer is woken up. -/
  | sleep
  | returned

/-- The answer of an attempt that has ended. -/
def AttemptStage.answer? : AttemptStage → Option (Except QueueError JobStatus)
  | ended answer => some answer
  | stranded cause => some (.error cause)
  | _ => none

namespace LoopPoint

/-- The next step begins a claim. -/
def isBeginning : LoopPoint → Bool
  | claim _ => true
  | _ => false

/-- The consumer has found itself active and has not begun the claim that comes after that. -/
def isPastTest : LoopPoint → Bool
  | mark _ | claim _ => true
  | _ => false

/-- The consumer is between the beginning of a claim and the end of the attempt of the claimed
job. -/
def isWorking : LoopPoint → Bool
  | claiming _ | start _ _ | attempt _ _ _ _ => true
  | _ => false

/-- Set the mark of the running tick. -/
def setTicking (consumer : Nat) (ticking : Bool) (w : World σ) : World σ :=
  w.withFlags consumer fun f => { f with ticking }

/-- The next step of the loop. It never fails: a failure is a point. -/
def step (q : Queue σ) (consumer : Nat) (executor : Executor σ) : LoopPoint → QueueM σ LoopPoint
  | poll => do
    if ((← get).flags consumer).active then return enter
    log .consumerStopped
    return returned
  | enter => do
    if ((← get).flags consumer).active then return lock else return ended (.ok 0)
  | lock => do
    if ((← get).flags consumer).ticking then
      log .tickSkipped
      return ended (.ok 0)
    modify (setTicking consumer true)
    return test 0
  | test processed => do
    if ((← get).flags consumer).active then return mark processed
    else return unlock (.ok processed)
  | mark processed => do
    modify (Queue.setInFlight consumer true)
    return claim processed
  | claim processed => return claiming processed
  | claiming processed =>
    recover
      (do
        match ← q.claim with
        | none => return leave (.ok processed)
        | some job => return start processed job)
      fun e => return leave (.error e)
  | start processed job => do
    let around := (← get).underway
    modify fun w => { Queue.setInFlight consumer true w with underway := some job }
    return attempt processed job around .claimed
  | attempt processed job around stage => do
    let stage ← stage.step q executor job
    match stage.answer? with
    | none => return attempt processed job around stage
    | some answer =>
      modify fun w => { w with underway := around }
      return unmark processed answer
  | unmark processed answer => do
    modify (Queue.setInFlight consumer false)
    match answer with
    | .ok _ => return again (processed + 1)
    | .error e => return leave (.error e)
  | again processed => do
    modify (Queue.setInFlight consumer false)
    return test processed
  | leave outcome => do
    modify (Queue.setInFlight consumer false)
    return unlock outcome
  | unlock outcome => do
    modify fun w => setTicking consumer false (w.emitted .tick)
    return ended outcome
  | ended outcome => do
    match outcome with
    | .ok processed => if 0 < processed then log .queueDrained
    | .error _ => log .tickFailed
    return sleep
  | sleep => return poll
  | returned => return returned

end LoopPoint

/-! ## The worker -/

/-- Where the shutdown of a worker stands; each point is named for the step that comes next. -/
inductive ShutdownPoint where
  /-- Wait for a request to shut down. -/
  | wait
  /-- Make the consumer inactive. -/
  | stop
  /-- Wake the consumer up. -/
  | wake
  /-- Wait until the consumer is idle. -/
  | watch
  /-- End the heartbeat. -/
  | quiet
  /-- Wait until the loop has returned. -/
  | join
  /-- Close the database. -/
  | close
  | closed
  deriving DecidableEq, Repr

/-- A worker and its consumer in a world. -/
structure Lifecycle (σ : Type) where
  world : World σ
  loop : LoopPoint
  shutdown : ShutdownPoint
  /-- The sleep of the consumer ends at once. -/
  awake : Bool
  /-- The number of claims begun. -/
  begun : Nat

namespace Lifecycle

/-- A worker that starts in a world. -/
def initial (w : World σ) : Lifecycle σ := ⟨w, .poll, .wait, false, 0⟩

/-- The shutdown has come to closing the database. -/
def isClosing (l : Lifecycle σ) : Bool :=
  match l.shutdown with
  | .close | .closed => true
  | _ => false

/-- The consumer is made inactive, by somebody else or by the shutdown. -/
inductive Stops (consumer : Nat) (l : Lifecycle σ) : Lifecycle σ → Prop where
  | outside {w : World σ} (hw : Queue.stop consumer l.world = .ok () w) :
      Stops consumer l { l with world := w }
  | shutdown {w : World σ} (h : l.shutdown = .stop) (hw : Queue.stop consumer l.world = .ok () w) :
      Stops consumer l { l with world := w, shutdown := .wake }

/-- A step of the shutdown, other than the one that makes the consumer inactive. -/
inductive ShutdownStep (consumer : Nat) (l : Lifecycle σ) : Lifecycle σ → Prop where
  | wait (h : l.shutdown = .wait) : ShutdownStep consumer l
      { l with world := l.world.logged .shutdownRequested, shutdown := .stop }
  | wake (h : l.shutdown = .wake) :
      ShutdownStep consumer l { l with awake := true, shutdown := .watch }
  | watch (h : l.shutdown = .watch) (hidle : (l.world.flags consumer).inFlight = false) :
      ShutdownStep consumer l { l with shutdown := .quiet }
  | quiet (h : l.shutdown = .quiet) : ShutdownStep consumer l { l with shutdown := .join }
  | join (h : l.shutdown = .join) (hloop : l.loop = .returned) :
      ShutdownStep consumer l { l with shutdown := .close }
  | close (h : l.shutdown = .close) : ShutdownStep consumer l
      { l with world := l.world.logged .workerStopped, shutdown := .closed }

/-- A step of a lifecycle. The executor, when it is asked, gives any answer; what it does to the
world meanwhile are steps of their own. -/
inductive Step (q : Queue σ) (consumer : Nat) (l : Lifecycle σ) : Lifecycle σ → Prop where
  | loop (answer : Answer) {point : LoopPoint} {w : World σ}
      (h : l.loop.step q consumer (fun _ w => (answer, w)) l.world = .ok point w) :
      Step q consumer l
        { l with
          world := w
          loop := point
          begun := if l.loop.isBeginning then l.begun + 1 else l.begun }
  /-- The sleep of the consumer ends because it has been stopped. -/
  | woken (h : l.loop = .sleep) (hawake : l.awake) : Step q consumer l
      { l with world := l.world.logged .consumerStopped, loop := .returned }
  | stop {l' : Lifecycle σ} (h : l.Stops consumer l') : Step q consumer l l'
  /-- Somebody else wakes the consumer up that he has stopped. -/
  | wake (h : (l.world.flags consumer).active = false) : Step q consumer l { l with awake := true }
  | shutdown {l' : Lifecycle σ} (h : l.ShutdownStep consumer l') : Step q consumer l l'
  /-- Others change the world; the flags of the consumer are not theirs. -/
  | elsewhere {w : World σ} (hw : w.flags consumer = l.world.flags consumer) :
      Step q consumer l { l with world := w }

end Lifecycle

end SyncQueue
