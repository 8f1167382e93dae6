import SyncQueue.Queue.Consumer

/-!
# The worker

A worker owns one consumer. It shows that it lives by heartbeats, lets the consumer run until a
shutdown is requested, and ends when the consumer has: a job that is being executed then is still
finished, and none is started.
-/

namespace SyncQueue

variable {σ : Type}

/-- A worker: its name and the number of its consumer. -/
structure Worker where
  name : String
  consumer : Nat
  deriving DecidableEq, Repr

namespace Worker

/-- Report that the worker lives and whether its consumer holds a job. -/
def heartbeat (worker : Worker) : QueueM σ Unit := do
  let w ← get
  emit (.heartbeat worker.name w.now (w.flags worker.consumer).inFlight)

/-- Stop the consumer of the worker because a shutdown is requested. -/
def drain (worker : Worker) : QueueM σ Unit := do
  log .shutdownRequested
  Queue.stop worker.consumer

/-- Run a worker until its consumer has been stopped. A shutdown may be requested before the
consumer starts, by the executor while it executes a job, or when there is nothing left to do. The
result tells whether the worker has ended. -/
def run (worker : Worker) (q : Queue σ) (executor : Executor σ) (shutdownFirst : Bool)
    (patience : Nat) (goesOn : Option Nat → Bool) (whenIdle : QueueM σ Unit) : QueueM σ Bool := do
  log .workerStarting
  worker.heartbeat
  if shutdownFirst then worker.drain
  let stopped ← q.run worker.consumer executor patience goesOn whenIdle
  if stopped then log .workerStopped
  return stopped

end Worker

end SyncQueue
