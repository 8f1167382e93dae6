import SyncQueue.Queue.Computation
import SyncQueue.Queue.Scheduler

/-!
# Requests, statement by statement

A request whose statements follow one another without a break is served as by `Queue.schedule`
(`Phase.finish_start`).
-/

namespace SyncQueue

variable {σ : Type}

namespace Phase

/-- The most statements that a request needs. -/
def maxSteps : Nat := 4

/-- Send statements, at most `fuel` of them. -/
def finish (q : Queue σ) (r : ScheduleRequest) : (fuel : Nat) → Phase → World σ → Phase × World σ
  | 0, p, w => (p, w)
  | fuel + 1, p, w => finish q r fuel (p.step q r w).1 (p.step q r w).2

/-- A request that has been answered with the result of a computation. -/
def ofResult : EStateM.Result QueueError (World σ) ScheduledJob → Phase × World σ
  | .ok s w => (.done (.ok s), w)
  | .error e w => (.done (.error e), w)

theorem finish_done (q : Queue σ) (r : ScheduleRequest) (fuel : Nat)
    (answer : Except QueueError ScheduledJob) (w : World σ) :
    finish q r fuel (.done answer) w = (.done answer, w) := by
  induction fuel with
  | zero => rfl
  | succ fuel ih => exact ih

theorem finish_winner (q : Queue σ) (r : ScheduleRequest) (fuel : Nat) (cause : StoreError)
    (w : World σ) :
    finish q r (fuel + 1) (.winner cause) w = ofResult (q.readWinner r cause w) := by
  simp only [finish, step, advance]
  cases q.readWinner r cause w <;> exact finish_done ..

theorem finish_insert (q : Queue σ) (r : ScheduleRequest) (fuel : Nat) (n : Int) (w : World σ) :
    finish q r (fuel + 2) (.insert n) w = ofResult (q.serveByInsert r n w) := by
  rw [finish]
  simp only [step, advance, Queue.serveByInsert, bind_apply]
  cases q.insertNew r n w with
  | error e w => exact finish_done ..
  | ok i w =>
    cases i with
    | created job => exact finish_done ..
    | duplicate cause => exact finish_winner ..

theorem finish_window (q : Queue σ) (r : ScheduleRequest) (fuel : Nat) (n : Int) (w : World σ) :
    finish q r (fuel + 3) (.window n) w = ofResult (q.serveByWindow r n w) := by
  rw [finish]
  simp only [step, advance, Queue.serveByWindow, bind_apply]
  cases q.lookupWindow r w with
  | error e w => exact finish_done ..
  | ok found w =>
    cases found with
    | some job => exact finish_done ..
    | none => exact finish_insert ..

/-- Statements without a break serve a request. -/
theorem finish_start (q : Queue σ) (defaultMaxRetries : Int) (r : ScheduleRequest) (w : World σ) :
    finish q r maxSteps (start defaultMaxRetries r) w =
      ofResult (q.schedule defaultMaxRetries r w) := by
  unfold start Queue.schedule
  cases r.validate defaultMaxRetries with
  | error e => exact finish_done ..
  | ok n =>
    cases hk : r.idempotencyKey with
    | none =>
      have h := finish_window q r 1 n w
      simp only [Option.isSome_none, Bool.false_eq_true, if_false]
      rw [show maxSteps = 1 + 3 from rfl, h]
      simp only [Queue.lookupKey, hk, bind_apply, pure_apply]
    | some key =>
      simp only [Option.isSome_some, if_true]
      rw [show maxSteps = 3 + 1 from rfl, finish]
      simp only [step, advance, bind_apply]
      cases q.lookupKey r w with
      | error e w => exact finish_done ..
      | ok found w =>
        cases found with
        | some job => exact finish_done ..
        | none => exact finish_window q r 0 n w

end Phase

end SyncQueue
