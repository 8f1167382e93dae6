import SyncQueue.Store.Error
import SyncQueue.Text.Decimal
import SyncQueue.Time.Instant
import SyncQueue.Uuid

/-!
# Errors of the queue

An error of the store carries the operation that met it; the others are refused requests and a
metrics sink that does not answer. `message` is their wording.
-/

namespace SyncQueue

open Time (Instant)

/-- An error of the scheduler, the consumer or the failure tracker. -/
inductive QueueError where
  /-- The store failed in the operation that `context` names. -/
  | database (context : String) (source : StoreError)
  | jobNotFound (id : Uuid)
  /-- The window does not begin before it ends. -/
  | invalidWindow (start stop : Instant)
  | invalidMaxRetries (value : Int)
  /-- The metrics sink failed. -/
  | telemetry (text : String)
  deriving DecidableEq, Repr

namespace QueueError

/-- The wording of an error. -/
def message : QueueError → String
  | database context source => context ++ ": " ++ source.message
  | jobNotFound id => "sync job " ++ id.text ++ " not found"
  | invalidWindow start stop =>
    "sync window start (" ++ start.plainText ++ ") must be before end (" ++ stop.plainText ++ ")"
  | invalidMaxRetries value =>
    "max retries must be at least 1, got " ++ String.ofList (Text.intDigits value)
  | telemetry text => "telemetry refresh failed: " ++ text

/-- The texts of an error and of the faults behind it. -/
def causes (e : QueueError) : List String :=
  e.message ::
    match e with
    | database _ source => source.causes
    | _ => []

/-- Sending the same transaction again may succeed. -/
def isTransient : QueueError → Bool
  | database _ source => source.isTransient
  | _ => false

/-- The store refused a duplicate. -/
def isUniqueViolation : QueueError → Bool
  | database _ source => source.isUniqueViolation
  | _ => false

end QueueError

end SyncQueue
