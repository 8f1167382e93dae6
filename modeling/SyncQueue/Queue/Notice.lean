/-!
# Notices

What the program tells its log: a severity, the part of the program that speaks, a message, and the
names of the values that go with the message. Every message that the program has is a constant here.
-/

namespace SyncQueue

/-- The severity of a notice. -/
inductive Level where
  | debug
  | info
  | warn
  | error
  deriving DecidableEq, Repr

/-- The name of a severity. -/
def Level.text : Level → String
  | debug => "DEBUG"
  | info => "INFO"
  | warn => "WARN"
  | error => "ERROR"

/-- The least verbosity of a log that shows a severity. -/
def Level.verbosity : Level → Nat
  | error => 1
  | warn => 2
  | info => 3
  | debug => 4

/-- The part of the program that speaks. -/
inductive Source where
  | program
  | connection
  | consumer
  | breaker
  | scheduler
  | errors
  | executor
  | worker
  deriving DecidableEq, Repr

/-- The target under which a part of the program writes lines. -/
def Source.target : Source → String
  | program => "calsync"
  | connection => "calsync::db"
  | consumer => "calsync::consumer"
  | breaker => "calsync::circuit_breaker"
  | scheduler => "calsync::repositories::sync_job"
  | errors => "calsync::error"
  | executor => "calsync::executor"
  | worker => "calsync::worker"

/-- A message to the log. -/
structure Notice where
  level : Level
  source : Source
  message : String
  /-- The names of the values that go with the message. -/
  fields : List String
  deriving DecidableEq, Repr

namespace Notice

/-! ## Program and connection -/

/-- The settings have been read. -/
def loadedConfiguration : Notice := ⟨.info, .program, "Loaded configuration", ["profile"]⟩

/-- The settings in force. -/
def effectiveConfiguration : Notice := ⟨.debug, .program, "Effective configuration", ["config"]⟩

/-- The database has all tables. -/
def migrationsApplied : Notice := ⟨.info, .program, "Database migrations applied", []⟩

/-- The only tick of a run has ended. -/
def singleTickFinished : Notice := ⟨.info, .program, "Single tick finished", ["processed"]⟩

/-- A connection was made. -/
def connected : Notice := ⟨.info, .connection, "Connected to database", ["max_connections"]⟩

/-- No connection could be made. -/
def connectionFailed : Notice := ⟨.error, .connection, "Failed to connect to database", ["error"]⟩

/-! ## Workers and consumers -/

/-- A worker starts. -/
def workerStarting : Notice := ⟨.info, .worker, "Sync worker starting", ["worker_id"]⟩

/-- A worker ends after the attempt under way. -/
def shutdownRequested : Notice :=
  ⟨.info, .worker, "Shutdown requested, draining in-flight job", ["worker_id"]⟩

/-- A worker has ended. -/
def workerStopped : Notice := ⟨.info, .worker, "Sync worker stopped", ["worker_id"]⟩

/-- The system sent a signal. -/
def signalReceived (signal : String) : Notice := ⟨.info, .worker, "Received " ++ signal, []⟩

/-- A consumer begins to tick. -/
def consumerStarted : Notice :=
  ⟨.info, .consumer, "Queue consumer started", ["poll_interval_ms"]⟩

/-- A consumer makes no further attempts. -/
def consumerStopping : Notice := ⟨.info, .consumer, "Queue consumer stopping", []⟩

/-- A consumer has stopped. -/
def consumerStopped : Notice := ⟨.info, .consumer, "Queue consumer stopped", []⟩

/-- A tick of the consumer is running. -/
def tickSkipped : Notice := ⟨.debug, .consumer, "Tick already in progress, skipping", []⟩

/-- A tick ended with an error. -/
def tickFailed : Notice := ⟨.error, .consumer, "Queue consumer tick failed", ["error"]⟩

/-- A tick has processed jobs. -/
def queueDrained : Notice := ⟨.debug, .consumer, "Queue drained", ["processed"]⟩

/-! ## Attempts -/

/-- A consumer holds a job. -/
def jobClaimed : Notice :=
  ⟨.info, .consumer, "Claimed sync job",
    ["job_id", "pair_id", "connector_id", "retry_count", "priority"]⟩

/-- No executor takes jobs of the type. -/
def unsupportedJob : Notice :=
  ⟨.warn, .executor, "No executor registered for job type", ["job_id", "job_type"]⟩

/-- The executor ended with an error. -/
def executorError : Notice := ⟨.warn, .consumer, "Job executor returned an error", ["error"]⟩

/-- The executor broke off. -/
def executorPanic : Notice := ⟨.error, .consumer, "Job executor panicked", ["panic"]⟩

/-- The task of the executor was cancelled. -/
def executorCancelled : Notice :=
  ⟨.error, .consumer, "Job executor task was cancelled", ["error"]⟩

/-- An attempt succeeded. -/
def jobCompleted : Notice :=
  ⟨.info, .consumer, "Sync job completed", ["outcome", "processed_events", "failed_events"]⟩

/-- An attempt failed. -/
def jobFailed : Notice :=
  ⟨.warn, .consumer, "Sync job failed",
    ["status", "retry_count", "max_retries", "next_run_at", "consecutive_failures", "error"]⟩

/-- The metrics sink does not answer. -/
def depthUnknown : Notice := ⟨.warn, .consumer, "Failed to refresh queue depth", ["error"]⟩

/-- The transaction that ends an attempt is sent again. -/
def finalizeRepeated : Notice :=
  ⟨.warn, .consumer, "Finalize transaction failed, retrying", ["attempt", "error"]⟩

/-- An attempt that could not be finalized cannot be logged either. -/
def releaseUnlogged : Notice :=
  ⟨.warn, .consumer, "Could not log released attempt, releasing job row only", ["error"]⟩

/-- A job could not be returned. -/
def releaseFailed : Notice :=
  ⟨.error, .consumer, "Failed to release job after finalize error; it stays in_progress",
    ["error"]⟩

/-- A job was returned. -/
def jobReleased : Notice :=
  ⟨.warn, .consumer, "Released sync job after finalize error", ["status", "retry_count"]⟩

/-! ## Failures of keys -/

/-- The stored count of failures was behind the retry count of a job. -/
def countRaised : Notice :=
  ⟨.warn, .breaker, "Reconciled failure counter with job retry count",
    ["connector_id", "pair_id", "stored", "consecutive_failures"]⟩

/-- A key is paused. -/
def breakerOpened : Notice :=
  ⟨.warn, .breaker, "Circuit breaker opened",
    ["connector_id", "pair_id", "consecutive_failures", "paused_until"]⟩

/-- The alerts of a key are acknowledged. -/
def breakerCleared : Notice :=
  ⟨.info, .breaker, "Circuit breaker cleared", ["connector_id", "pair_id", "cleared"]⟩

/-! ## Requests and errors -/

/-- A request has created a job. -/
def jobScheduled : Notice :=
  ⟨.info, .scheduler, "Sync job scheduled", ["job_id", "pair_id", "connector_id", "priority"]⟩

/-- A job with the idempotency key of a request answers it. -/
def keyAnswered : Notice :=
  ⟨.debug, .scheduler, "Returning existing sync job for idempotency key",
    ["job_id", "idempotency_key"]⟩

/-- A job for the window of a request answers it. -/
def windowAnswered : Notice :=
  ⟨.debug, .scheduler, "Returning active sync job for identical window", ["job_id", "pair_id"]⟩

/-- The store failed. -/
def operationFailed : Notice :=
  ⟨.error, .errors, "Database operation failed", ["error", "context"]⟩

end Notice

end SyncQueue
