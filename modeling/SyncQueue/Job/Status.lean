/-!
# Job states and outcomes

A job is pending, in progress, retrying, completed or failed. Pending and retrying jobs may be
claimed; together with those in progress they are active; completed and failed jobs are terminal.
`ofText?` reads back what `text` writes.
-/

namespace SyncQueue

/-- The state of a job. -/
inductive JobStatus where
  | pending
  | inProgress
  | retrying
  | completed
  | failed
  deriving DecidableEq, Repr, Inhabited

namespace JobStatus

/-- All states, in the order of reports. -/
def all : List JobStatus := [pending, inProgress, retrying, completed, failed]

/-- The stored name of a state. -/
def text : JobStatus → String
  | pending => "pending"
  | inProgress => "in_progress"
  | retrying => "retrying"
  | completed => "completed"
  | failed => "failed"

/-- The state of a stored name. -/
def ofText? (s : String) : Option JobStatus := all.find? (·.text = s)

/-- The job never changes again. -/
def isTerminal : JobStatus → Bool
  | completed => true
  | failed => true
  | _ => false

/-- A consumer may claim the job. -/
def isClaimable : JobStatus → Bool
  | pending => true
  | retrying => true
  | _ => false

/-- The job still has work outstanding. -/
def isActive : JobStatus → Bool
  | pending => true
  | retrying => true
  | inProgress => true
  | _ => false

/-- The place of a state in reports. -/
def index (s : JobStatus) : Nat := all.idxOf s

theorem ofText?_text (s : JobStatus) : ofText? s.text = some s := by cases s <;> rfl

end JobStatus

/-- The outcome of one attempt. -/
inductive Outcome where
  | success
  | partly
  | failure
  deriving DecidableEq, Repr, Inhabited

namespace Outcome

/-- All outcomes. -/
def all : List Outcome := [success, partly, failure]

/-- The stored name of an outcome. -/
def text : Outcome → String
  | success => "success"
  | partly => "partial"
  | failure => "failure"

/-- The outcome of a stored name. -/
def ofText? (s : String) : Option Outcome := all.find? (·.text = s)

theorem ofText?_text (o : Outcome) : ofText? o.text = some o := by cases o <;> rfl

end Outcome

end SyncQueue
