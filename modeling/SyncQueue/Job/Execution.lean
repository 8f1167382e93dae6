import SyncQueue.Job.Row

/-!
# Executing jobs

What an executor may answer, the result an answer counts as, and the registry that finds an executor
by the type of the payload. An error, a panic and a cancellation count as a failure without events.
-/

namespace SyncQueue

/-- The result of one attempt. -/
inductive ExecutionResult where
  | success (processed failed : Int)
  | partly (processed failed : Int)
  | failure (processed failed : Int) (summary : String)
  deriving DecidableEq, Repr

namespace ExecutionResult

/-- The outcome that a result is logged under. -/
def outcome : ExecutionResult → Outcome
  | success .. => .success
  | partly .. => .partly
  | failure .. => .failure

/-- The number of events processed. -/
def processedEvents : ExecutionResult → Int
  | success processed _ => processed
  | partly processed _ => processed
  | failure processed _ _ => processed

/-- The number of events that failed. -/
def failedEvents : ExecutionResult → Int
  | success _ failed => failed
  | partly _ failed => failed
  | failure _ failed _ => failed

/-- The summary of a failure. -/
def errorSummary : ExecutionResult → Option String
  | failure _ _ summary => some summary
  | _ => none

/-- The attempt failed. -/
def isFailure : ExecutionResult → Bool
  | failure .. => true
  | _ => false

/-- A failure without events. -/
def failed (summary : String) : ExecutionResult := .failure 0 0 summary

/-- The result as a document. -/
def toJson (r : ExecutionResult) : Json :=
  .object <| [("outcome", .string r.outcome.text), ("processed_events", .integer r.processedEvents),
    ("failed_events", .integer r.failedEvents)] ++
    match r.errorSummary with
    | some summary => [("error_summary", .string summary)]
    | none => []

end ExecutionResult

/-- What comes of a call of an executor. -/
inductive Answer where
  | result (r : ExecutionResult)
  | error (text : String)
  /-- The executor broke off, with a message if what it carried is a text. -/
  | panic (text : Option String)
  /-- The task of the executor was cancelled before it ended. -/
  | cancelled
  deriving DecidableEq, Repr

namespace Answer

/-- The summary of a panic without a message. -/
def panicSummary : String := "job executor panicked"

/-- The summary of a cancelled task. -/
def cancelledSummary : String := "job executor task was cancelled"

/-- The result that an answer counts as. -/
def toResult : Answer → ExecutionResult
  | result r => r
  | error text => .failed text
  | panic text => .failed (text.getD panicSummary)
  | cancelled => .failed cancelledSummary

end Answer

/-- Executors by payload type, and one for all other types. -/
structure Registry (α : Type) where
  executors : List (String × α)
  fallback : Option α

namespace Registry

variable {α : Type}

/-- No executors. -/
def empty : Registry α := ⟨[], none⟩

/-- Add an executor for a type in place of an earlier one. -/
def register (r : Registry α) (type : String) (executor : α) : Registry α :=
  if r.executors.any (·.1 = type) then
    { r with executors := r.executors.map fun e => if e.1 = type then (type, executor) else e }
  else { r with executors := r.executors ++ [(type, executor)] }

/-- Set the executor for all other types. -/
def withFallback (r : Registry α) (executor : α) : Registry α :=
  { r with fallback := some executor }

/-- Change every executor. -/
def map {β : Type} (f : α → β) (r : Registry α) : Registry β :=
  ⟨r.executors.map fun (type, executor) => (type, f executor), r.fallback.map f⟩

/-- The registered types in ascending order. -/
def types (r : Registry α) : List String := (r.executors.map (·.1)).mergeSort fun a b => a ≤ b

/-- The executor for a payload type; the fallback when there is no type or none is registered. -/
def find? (r : Registry α) (type : Option String) : Option α :=
  (type.bind fun t => r.executors.lookup t).or r.fallback

/-- The failure of a job that no executor takes. -/
def unsupported (type : Option String) : ExecutionResult :=
  .failed ("unsupported job type: " ++ type.getD "<missing>")

end Registry

/-- The payload type of the executor that succeeds without doing anything. -/
def noopType : String := "noop"

/-- The result of the executor that does nothing. -/
def noopResult : ExecutionResult := .success 0 0

end SyncQueue
