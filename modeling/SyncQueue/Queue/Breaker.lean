import SyncQueue.Job.Row
import SyncQueue.Text.Decimal

/-!
# The circuit breaker

When the consecutive failures of a key reach a threshold, claiming its jobs pauses for a while and
an alert is raised. This module holds the decisions; `Queue.Tracker` applies them to the store.
-/

namespace SyncQueue

open Time (Delta Instant)

/-- When a key is paused and for how long. -/
structure BreakerPolicy where
  threshold : Int
  pause : Delta
  deriving DecidableEq, Repr

namespace Breaker

/-- The count after a failure is never below the retry count of the job that failed. -/
def reconcile (stored newRetryCount : Int) : Int := max stored newRetryCount

/-- A new pause begins: the threshold is reached and no pause is running. -/
def shouldPause (policy : BreakerPolicy) (failures : Int) (pausedUntil : Option Instant)
    (now : Instant) : Bool :=
  decide (policy.threshold ≤ failures) && pausedUntil.all fun until_ => decide (until_ ≤ now)

/-- The end of a pause that begins now: the last instant if it would be later. -/
def pauseEnd (policy : BreakerPolicy) (now : Instant) : Instant :=
  (now.add? policy.pause).getD Instant.last

/-- The message of an alert while the breaker is open. -/
def openMessage (key : SyncKey) (failures : Int) (pausedUntil : Option Instant) : String :=
  "Circuit breaker open for connector " ++ key.connector.text ++ " pair " ++ key.pair.text ++
    " after " ++ String.ofList (Text.intDigits failures) ++ " consecutive failures" ++
    match pausedUntil with
    | some until_ => "; claiming paused until " ++ until_.offsetText
    | none => ""

/-- The message of an alert after a success has closed the breaker. -/
def clearedMessage (key : SyncKey) : String :=
  "Circuit breaker cleared for connector " ++ key.connector.text ++ " pair " ++ key.pair.text ++
    " after a successful sync"

end Breaker

/-- The state of a key after a failure. -/
structure FailureState where
  consecutiveFailures : Int
  pausedUntil : Option Instant
  /-- This failure began a new pause. -/
  opened : Bool
  deriving DecidableEq, Repr

end SyncQueue
