import SyncQueue.Job.Execution
import SyncQueue.Queue.Tracker

/-!
# The consumer

A consumer claims the best eligible job, has it executed and finalizes the attempt. `claim`,
`finalizeSuccess`, `finalizeFailure` and `releaseLogged` are transactions; `finalize` repeats one
that failed for a passing reason, and `release` returns a job whose attempt could not be finalized.
`processJob` is one attempt, `tick` makes attempts until no job is eligible, and `run` ticks until
the consumer is stopped.
-/

namespace SyncQueue

open Time (Instant)

variable {σ α : Type}

/-- Whatever executes jobs; while it does it may change the world. -/
abbrev Executor (σ : Type) := Job → World σ → Answer × World σ

/-- The executor that succeeds without doing anything. -/
def Executor.noop : Executor σ := fun _ w => (.result noopResult, w)

/-- Have each job executed by the executor for its payload type. A job without one fails. -/
def Registry.executor (r : Registry (Executor σ)) : Executor σ := fun job w =>
  match r.find? job.payloadType? with
  | some executor => executor job w
  | none =>
    (.result (unsupported job.payloadType?),
      w.logged .unsupportedJob)

namespace Job

/-- The job while a consumer holds it. -/
def claimed (job : Job) (now : Instant) : Job :=
  { job with status := .inProgress, updatedAt := now }

/-- The job after an attempt that succeeded. -/
def completed (job : Job) (now : Instant) : Job :=
  { job with status := .completed, lastError := none, updatedAt := now }

/-- The retry count after one more failed attempt. The sum is made in 32 bits, which hold it: a job
is claimed only while its count is below the largest count that it may have. -/
def nextRetryCount (job : Job) : Int := job.retryCount + 1

/-- One more failed attempt exhausts the job. -/
def isLastAttempt (job : Job) : Bool := decide (job.maxRetries ≤ job.nextRetryCount)

/-- The state after one more failed attempt. -/
def nextStatus (job : Job) : JobStatus := if job.isLastAttempt then .failed else .retrying

/-- The number of the attempt that decides the delay: the retry count, or one when it is
negative. -/
def delayAttempt (job : Job) : Nat := if 0 ≤ job.nextRetryCount then job.nextRetryCount.toNat else 1

/-- A stored row after a failed attempt of the job as it was claimed. A job that has failed for good
keeps its due time. -/
def afterFailure (held : Job) (nextRunAt : Instant) (summary : String) (now : Instant)
    (row : Job) : Job :=
  { row with
    status := held.nextStatus
    retryCount := held.nextRetryCount
    nextRunAt := if held.isLastAttempt then row.nextRunAt else nextRunAt
    lastError := some summary
    updatedAt := now }

/-- The log row of an attempt. -/
def attempt (job : Job) (result : ExecutionResult) (startedAt finishedAt : Instant) :
    AttemptLog where
  jobId := job.id
  key := job.key
  startedAt
  finishedAt
  processedEvents := result.processedEvents
  failedEvents := result.failedEvents
  outcome := result.outcome
  errorSummary := result.errorSummary

end Job

namespace Queue

/-! ## Claiming -/

/-- Claim the best eligible job and mark it in progress. -/
def claim (q : Queue σ) : QueueM σ (Option Job) := do
  let now ← clock
  let claimed ← q.transaction "failed to begin claim transaction" do
    let best ← within "failed to claim next job" (q.read [.jobs, .stats] (·.best? now))
    match best with
    | none =>
      q.commit "failed to commit empty claim"
      return none
    | some job =>
      within "failed to mark job in progress" (q.updateJob job.id (·.claimed now))
      q.commit "failed to commit job claim"
      return some (job.claimed now)
  if claimed.isSome then log .jobClaimed
  return claimed

/-! ## Finalizing -/

/-- Add an attempt to the log. -/
def logAttempt (q : Queue σ) (log : AttemptLog) : QueueM σ Unit :=
  within "failed to insert sync job log" (q.write .insert .logs (fun _ => true) (·.appendLog log))

/-- Measure the queue depth for the metrics sink. -/
def refreshDepth (q : Queue σ) : QueueM σ Unit := do
  match q.sink with
  | .recording => emit .refresh
  | .failing text =>
    emit .refresh
    throw (.telemetry text)
  | .metrics => emit (.depth (← q.countByStatus))

/-- The transaction of an attempt that succeeded. -/
def commitSuccess (q : Queue σ) (job : Job) (result : ExecutionResult)
    (startedAt finishedAt : Instant) : QueueM σ Unit :=
  q.transaction "failed to begin finalize success transaction" do
    within "failed to mark job completed" (q.updateJob job.id (·.completed finishedAt))
    q.logAttempt (job.attempt result startedAt finishedAt)
    let _ ← q.recordSuccess job.key finishedAt
    q.commit "failed to commit finalize success"

/-- Finalize an attempt that succeeded. -/
def finalizeSuccess (q : Queue σ) (job : Job) (result : ExecutionResult)
    (startedAt finishedAt : Instant) : QueueM σ JobStatus := do
  q.commitSuccess job result startedAt finishedAt
  log .jobCompleted
  emit (.status .completed job.key.connector)
  recover q.refreshDepth fun _ => log .depthUnknown
  return .completed

/-- The due time after a failed attempt; a job that has failed for good needs none. -/
def nextRunAt (q : Queue σ) (job : Job) (now : Instant) : QueueM σ Instant :=
  if job.isLastAttempt then return job.nextRunAt else q.drawNextRunAt job.delayAttempt now

/-- Report the state after a failed attempt. -/
def reportFailed (job : Job) : QueueM σ Unit := do
  emit (.status job.nextStatus job.key.connector)
  if !job.isLastAttempt then emit (.retry job.key.connector)

/-- The transaction of an attempt that failed. -/
def commitFailure (q : Queue σ) (job : Job) (result : ExecutionResult)
    (startedAt finishedAt : Instant) : QueueM σ Unit :=
  q.transaction "failed to begin finalize failure transaction" do
    let due ← q.nextRunAt job finishedAt
    within "failed to record job failure" <|
      q.updateJob job.id (job.afterFailure due (result.errorSummary.getD "") finishedAt)
    q.logAttempt (job.attempt result startedAt finishedAt)
    let _ ← q.recordFailure q.breaker job.key job.nextRetryCount finishedAt
    q.commit "failed to commit finalize failure"

/-- Finalize an attempt that failed. -/
def finalizeFailure (q : Queue σ) (job : Job) (result : ExecutionResult)
    (startedAt finishedAt : Instant) : QueueM σ JobStatus := do
  q.commitFailure job result startedAt finishedAt
  log .jobFailed
  reportFailed job
  return job.nextStatus

/-- Finalize an attempt once. -/
def finalizeOnce (q : Queue σ) (job : Job) (result : ExecutionResult)
    (startedAt finishedAt : Instant) : QueueM σ JobStatus :=
  if result.isFailure then q.finalizeFailure job result startedAt finishedAt
  else q.finalizeSuccess job result startedAt finishedAt

/-- Finalize an attempt, repeating the whole transaction at most `retries` times after errors that
may pass. -/
def finalize (q : Queue σ) (job : Job) (result : ExecutionResult)
    (startedAt finishedAt : Instant) : (retries : Nat) → QueueM σ JobStatus
  | 0 => q.finalizeOnce job result startedAt finishedAt
  | retries + 1 =>
    recover (q.finalizeOnce job result startedAt finishedAt) fun e => do
      if e.isTransient then
        log .finalizeRepeated
        q.finalize job result startedAt finishedAt retries
      else throw e

/-- The number of times that a finalize transaction is repeated. -/
def finalizeRetries : Nat := 2

/-! ## Releasing -/

/-- The summary of an attempt that could not be finalized. -/
def releaseSummary (cause : QueueError) : String := "finalize failed: " ++ cause.message

/-- Return a job and log its attempt as a failure, in one transaction. -/
def releaseLogged (q : Queue σ) (job : Job) (result : ExecutionResult) (cause : QueueError)
    (due startedAt now : Instant) : QueueM σ Unit :=
  let summary := releaseSummary cause
  q.transaction "failed to begin release transaction" do
    within "failed to release unfinalized job" <|
      q.updateJob job.id (job.afterFailure due summary now)
    q.logAttempt <|
      job.attempt (.failure result.processedEvents result.failedEvents summary) startedAt now
    q.commit "failed to commit job release"

/-- Return a job without a log row. The failure of this statement is not reported as an operation.
There is no transaction around it, so a row that was changed but could not be read back would stay
changed; such a failure is left out (`updateJob`). -/
def releaseRow (q : Queue σ) (job : Job) (cause : QueueError) (due now : Instant) :
    World σ → Bool × World σ := fun w =>
  match q.updateJob job.id (job.afterFailure due (releaseSummary cause) now) w with
  | .ok _ w => (true, w)
  | .error _ w => (false, w)

/-- Return a job whose attempt could not be finalized: counted as a failure and logged, or if that
fails too, counted only. The failure counts of the key stay as they are. -/
def release (q : Queue σ) (job : Job) (result : ExecutionResult) (cause : QueueError)
    (startedAt : Instant) : QueueM σ Unit := do
  let now ← clock
  let due ← q.nextRunAt job now
  let released ← recover (do q.releaseLogged job result cause due startedAt now; return true)
    fun _ => do
      log .releaseUnlogged
      let done ← modifyGet (q.releaseRow job cause due now)
      if !done then
        log .releaseFailed
      return done
  if released then
    log .jobReleased
    reportFailed job

/-! ## Attempts -/

/-- Finalize an attempt with a known result; if that fails for good, return the job and end with the
error. -/
def settle (q : Queue σ) (job : Job) (result : ExecutionResult) (startedAt finishedAt : Instant) :
    QueueM σ JobStatus :=
  recover (q.finalize job result startedAt finishedAt finalizeRetries) fun e => do
    q.release job result e startedAt
    throw e

/-- Have a job executed. What is not a result of the executor is logged and counts as a failure. -/
def execute (executor : Executor σ) (job : Job) : QueueM σ ExecutionResult := do
  let answer ← modifyGet (executor job)
  match answer with
  | .result _ => pure ()
  | .error _ => log .executorError
  | .panic _ => log .executorPanic
  | .cancelled => log .executorCancelled
  return answer.toResult

/-- Execute a claimed job and finalize the attempt. -/
def attempt (q : Queue σ) (executor : Executor σ) (job : Job) : QueueM σ JobStatus := do
  let startedAt ← clock
  let result ← execute executor job
  let finishedAt ← clock
  emit (.duration result.outcome)
  q.settle job result startedAt finishedAt

/-- Mark a consumer as claiming, executing or finalizing, or as idle. -/
def setInFlight (consumer : Nat) (inFlight : Bool) (w : World σ) : World σ :=
  w.withFlags consumer fun f => { f with inFlight }

/-- A computation during the attempt of a job. -/
def during (job : Job) (x : QueueM σ α) : QueueM σ α := do
  let around := (← get).underway
  modify fun w => { w with underway := some job }
  finallyModify x fun w => { w with underway := around }

/-- One attempt of a claimed job by a consumer. -/
def processJob (q : Queue σ) (consumer : Nat) (executor : Executor σ) (job : Job) :
    QueueM σ JobStatus := do
  modify (setInFlight consumer true)
  finallyModify (during job (q.attempt executor job)) (setInFlight consumer false)

/-! ## Ticks -/

/-- The attempts that claimable jobs allow for at most: until they fail for good, and one for a job
that is past that already. -/
def claimBudget (t : Tables) : Nat :=
  (t.jobs.filter (·.status.isClaimable)).foldr
    (fun job n => max 1 (job.maxRetries - job.retryCount).toNat + n) 0

/-- Claim and process jobs until none is eligible or the consumer is stopped. The result is their
number; none when `fuel` attempts did not suffice. -/
def drain (q : Queue σ) (consumer : Nat) (executor : Executor σ) :
    (fuel processed : Nat) → QueueM σ (Option Nat)
  | 0, _ => return none
  | fuel + 1, processed => do
    if !((← get).flags consumer).active then return some processed
    modify (setInFlight consumer true)
    let attempted ← finallyModify
      (do
        match ← q.claim with
        | none => return false
        | some job =>
          let _ ← q.processJob consumer executor job
          return true)
      (setInFlight consumer false)
    if attempted then q.drain consumer executor fuel (processed + 1)
    else return some processed

/-- Process every eligible job. A consumer that is stopped or already ticking does nothing. An error
ends the tick; jobs processed before it stay processed. The fuel is one more than the claimable jobs
can use up when nobody adds to them, and `patience` for jobs that the executor adds. -/
def tick (q : Queue σ) (consumer : Nat) (executor : Executor σ) (patience : Nat) :
    QueueM σ (Option Nat) := do
  let w ← get
  let flags := w.flags consumer
  if !flags.active then return some 0
  if flags.ticking then
    log .tickSkipped
    return some 0
  modify (·.withFlags consumer fun f => { f with ticking := true })
  finallyModify
    (q.drain consumer executor (claimBudget w.tables + patience + 1) 0)
    fun w => (w.emitted .tick).withFlags consumer fun f => { f with ticking := false }

/-- Stop a consumer: it starts no further attempt. -/
def stop (consumer : Nat) : QueueM σ Unit := do
  if ((← get).flags consumer).active then
    modify (·.withFlags consumer fun f => { f with active := false })
    log .consumerStopping

/-- Tick while the consumer is active and the result of the last tick asks for another one, at most
`fuel` times. The result of a tick that failed is none. -/
def ticks (q : Queue σ) (consumer : Nat) (executor : Executor σ) (patience : Nat)
    (goesOn : Option Nat → Bool) : (fuel : Nat) → QueueM σ Unit
  | 0 => return
  | fuel + 1 => do
    if !((← get).flags consumer).active then return
    let processed ← recover (q.tick consumer executor patience) fun _ => do
      log .tickFailed
      return none
    if processed.any (0 < ·) then log .queueDrained
    if goesOn processed then q.ticks consumer executor patience goesOn fuel

/-- Ticking goes on as long as the clock at rest lets ticks find something to do. -/
def untilIdle (processed : Option Nat) : Bool := processed != some 0

/-- Ticking ends with the first tick: what happens then comes before the next one. -/
def once (_processed : Option Nat) : Bool := false

/-- Run a consumer: tick, and when ticking has ended without the consumer being stopped, do what
comes then. The result tells whether the consumer has been stopped. -/
def run (q : Queue σ) (consumer : Nat) (executor : Executor σ) (patience : Nat)
    (goesOn : Option Nat → Bool) (whenIdle : QueueM σ Unit) : QueueM σ Bool := do
  log .consumerStarted
  q.ticks consumer executor patience goesOn patience
  if ((← get).flags consumer).active then whenIdle
  let stopped := !((← get).flags consumer).active
  if stopped then log .consumerStopped
  return stopped

end Queue

end SyncQueue
