import SyncQueue.Queue.Queries

/-!
# The failure tracker

Counts the consecutive failures of a key, pauses the key when its breaker opens and keeps one open
alert for it. Both `recordFailure` and `recordSuccess` send their statements one by one: called
inside a transaction they take effect together.
-/

namespace SyncQueue

open Time (Instant)

variable {σ : Type}

namespace Queue

/-- A statistics row without failures. -/
def newStat (key : SyncKey) (now : Instant) : FailureStat := ⟨key, 0, none, none, now, now⟩

/-- An open alert. -/
def newAlert (key : SyncKey) (message : String) (now : Instant) : Alert :=
  ⟨key, message, false, now, now⟩

/-- Make sure that a key has a statistics row. -/
def seedStat (q : Queue σ) (key : SyncKey) (now : Instant) : StoreM σ Unit :=
  q.write .insert .stats (fun _ => true) fun t =>
    if (t.stat? key).isSome then t else t.insertStat (newStat key now)

/-- Change the statistics row of a key, if there is one. -/
def updateStat (q : Queue σ) (key : SyncKey) (f : FailureStat → FailureStat) : StoreM σ Unit :=
  q.write .update .stats (fun t => (t.stat? key).isSome) (·.modifyStat key f)

/-- Give the open alert of a key a message, or raise a new alert with it. -/
def raiseAlert (q : Queue σ) (key : SyncKey) (message : String) (now : Instant) :
    QueueM σ Unit := do
  let isOpen ← within "failed to look up circuit breaker alert"
    (q.read [.alerts] (·.hasOpenAlert key))
  if isOpen then
    within "failed to update circuit breaker alert" <|
      q.write .update .alerts (fun _ => true)
        (·.modifyOpenAlert key fun a => { a with message, updatedAt := now })
  else
    within "failed to create circuit breaker alert" <|
      q.write .insert .alerts (fun _ => true) (·.insertAlert (newAlert key message now))

/-- Record a failure of a key: count it, bring the count up to the retry count of the job, open the
breaker when the threshold is reached, and keep the alert up to date. -/
def recordFailure (q : Queue σ) (policy : BreakerPolicy) (key : SyncKey) (newRetryCount : Int)
    (now : Instant) : QueueM σ FailureState := do
  within "failed to create connector failure stat" (q.seedStat key now)
  within "failed to increment connector failure stat" <|
    q.updateStat key fun s =>
      { s with
        consecutiveFailures := s.consecutiveFailures + 1
        lastFailureAt := some now
        updatedAt := now }
  match ← q.failureStat key with
  | none =>
    throw <| .database "failed to load connector failure stat" <|
      .recordNotFound (key.connector.text ++ "/" ++ key.pair.text)
  | some stat =>
    let stored := stat.consecutiveFailures
    let failures := Breaker.reconcile stored newRetryCount
    let opened := Breaker.shouldPause policy failures stat.pausedUntil now
    let pausedUntil := if opened then some (Breaker.pauseEnd policy now) else stat.pausedUntil
    if failures ≠ stored || opened then
      within "failed to update connector failure stat" <|
        q.updateStat key fun s =>
          { s with consecutiveFailures := failures, pausedUntil, updatedAt := now }
    if failures ≠ stored then
      log .countRaised
    if policy.threshold ≤ failures then
      q.raiseAlert key (Breaker.openMessage key failures pausedUntil) now
      if opened then log .breakerOpened
    return ⟨failures, pausedUntil, opened⟩

/-- Record a success of a key: reset its count and acknowledge its open alerts. The result is the
number of alerts acknowledged. -/
def recordSuccess (q : Queue σ) (key : SyncKey) (now : Instant) : QueueM σ Nat := do
  within "failed to reset connector failure stat" <|
    q.updateStat key fun s =>
      { s with
        consecutiveFailures := 0
        lastFailureAt := none
        pausedUntil := none
        updatedAt := now }
  let context := "failed to acknowledge circuit breaker alerts"
  let cleared ← within context do
    let count := ((← get).tables.alerts.filter (·.isOpenFor key)).length
    q.write .update .alerts (fun _ => 0 < count) <|
      (·.modifyOpenAlerts key fun a =>
        { a with acknowledged := true, message := Breaker.clearedMessage key, updatedAt := now })
    return count
  if 0 < cleared then log .breakerCleared
  return cleared

end Queue

end SyncQueue
