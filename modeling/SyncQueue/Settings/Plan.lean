import SyncQueue.Settings.Basic

/-!
# What a worker is started with

Before a worker starts, its settings become lengths of time and policies. That is done with numbers
of 64 bits and with spans of limited length. Where a result would not fit there is no plan, and the
worker does not start.
-/

namespace SyncQueue

open Time (Delta Instant)

namespace Span

/-- A span of milliseconds. -/
def ofMillis (ms : Nat) : Span := ⟨ms / 1000, ms % 1000 * 1000000⟩

/-- A span of seconds. -/
def ofSeconds (seconds : Nat) : Span := ⟨seconds, 0⟩

end Span

/-- A span of minutes, if their seconds fit 64 bits and it can be added to an instant. -/
def Time.Delta.ofMinutes? (minutes : Int) : Option Delta := do
  let seconds ← Number.signed? 64 (minutes * 60)
  if (seconds * 1000).natAbs ≤ Instant.maxSpanMillis then return .ofMillis (seconds * 1000)
  else none

/-- What a consumer is started with. -/
structure ConsumerPlan where
  /-- The time between two looks for work once there is none left. -/
  pollInterval : Span
  backoff : Backoff
  breaker : BreakerPolicy
  deriving DecidableEq, Repr

/-- What a worker is started with. -/
structure WorkerPlan where
  name : String
  /-- The time between two signs of life. A clock that ticks needs one that is not empty. -/
  heartbeatInterval : Span
  /-- The time between two looks at a job that a shutdown waits for. -/
  shutdownPoll : Span
  consumer : ConsumerPlan
  deriving DecidableEq, Repr

namespace RetrySettings

/-- How failed jobs are delayed, if the cap fits 64 bits. -/
def backoff? (s : RetrySettings) : Option Backoff := do
  let seconds ← Number.unsigned? 64 (s.maxDelayMinutes * 60)
  return ⟨s.jitterRatio, .ofSeconds seconds⟩

end RetrySettings

namespace BreakerSettings

/-- When keys are paused, if the pause can be expressed. -/
def policy? (s : BreakerSettings) : Option BreakerPolicy := do
  let pause ← Delta.ofMinutes? s.pauseMinutes
  return ⟨s.failureThreshold, pause⟩

end BreakerSettings

namespace Settings

/-- What a consumer is started with under the settings. -/
def consumerPlan? (s : Settings) : Option ConsumerPlan := do
  let backoff ← s.retry.backoff?
  let breaker ← s.breaker.policy?
  return ⟨.ofMillis s.worker.pollIntervalMillis, backoff, breaker⟩

/-- What a worker is started with under the settings. -/
def workerPlan? (s : Settings) : Option WorkerPlan := do
  let consumer ← s.consumerPlan?
  return {
    name := s.worker.id
    heartbeatInterval := .ofSeconds s.worker.heartbeatIntervalSeconds
    shutdownPoll := .ofMillis s.worker.shutdownPollMillis
    consumer }

end Settings

end SyncQueue
