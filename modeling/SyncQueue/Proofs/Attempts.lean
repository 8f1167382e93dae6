import SyncQueue.Proofs.Transactions
import SyncQueue.Queue.Attempt

/-!
# What the steps of an attempt do

An attempt calls the executor, finalizes what it answers, and returns the job if that fails for
good. `AttemptStage.Steps` lists what each step can do. All writes are made by the three steps that
end the attempt: every other step leaves the tables as they are.

* `AttemptStage.step_meets`: a step of an attempt is one of those listed, and it always succeeds.
* `AttemptStage.Steps.row`: a step that settles the attempt writes the row of the job once, as
  `Job.Settles` says; the others write nothing.
* `AttemptStage.Steps.breaker`: only finalizing an attempt touches statistics and alerts.
-/

namespace SyncQueue

open Time (Instant)

variable {σ : Type}

namespace AttemptStage

/-- Finalizing an attempt may fail: the store refuses it, the job is gone, or the failures of its
key cannot be counted any further. -/
def FinalizeFails (q : Queue σ) (job : Job) (result : ExecutionResult) (finishedAt : Instant)
    (w : World σ) : Prop :=
  q.IsFallible ∨ w.tables.job? job.id = none ∨
    result.isFailure = true ∧ ¬ Queue.CanCount w.tables job.key finishedAt

/-- Returning a job may fail: the store refuses it, or the job is gone. -/
def ReturnFails (q : Queue σ) (job : Job) (w : World σ) : Prop :=
  q.IsFallible ∨ w.tables.job? job.id = none

/-- What the next step of the attempt of a job can do, when an executor that is asked gives an
answer. -/
inductive Steps (q : Queue σ) (job : Job) (answer : Answer) (w : World σ) :
    AttemptStage → AttemptStage → World σ → Prop where
  | begins : Steps q job answer w .claimed (.executing w.now) w
  | executes {startedAt : Instant} {w' : World σ}
      (hw : w.Becomes w.tables (.duration answer.toResult.outcome :: w.events) w') :
      Steps q job answer w (.executing startedAt)
        (.executed answer.toResult startedAt w.now Queue.finalizeRetries) w'
  | finalizes {result : ExecutionResult} {startedAt finishedAt : Instant} {n : Nat}
      {status : JobStatus} {w' : World σ}
      (hw : q.Finalizes job result startedAt finishedAt w status w') :
      Steps q job answer w (.executed result startedAt finishedAt n) (.ended (.ok status)) w'
  /-- Finalizing failed, and is tried again. -/
  | repeats {result : ExecutionResult} {startedAt finishedAt : Instant} {n : Nat} {w' : World σ}
      (h : FinalizeFails q job result finishedAt w) (hw : w.Stays w') :
      Steps q job answer w (.executed result startedAt finishedAt (n + 1))
        (.executed result startedAt finishedAt n) w'
  /-- Finalizing failed for good. -/
  | fails {result : ExecutionResult} {startedAt finishedAt : Instant} {n : Nat}
      {cause : QueueError} {w' : World σ}
      (h : FinalizeFails q job result finishedAt w) (hw : w.Stays w') :
      Steps q job answer w (.executed result startedAt finishedAt n)
        (.failed result startedAt cause) w'
  | returns {result : ExecutionResult} {startedAt : Instant} {cause : QueueError} {w' : World σ}
      (n : Nat)
      (hw : w.Becomes
        (w.tables.withReturn job result cause (q.dueAfter job w.now (q.word n)) startedAt w.now)
        (job.failureEvents ++ w.events) w') :
      Steps q job answer w (.failed result startedAt cause) (.ended (.error cause)) w'
  /-- The job could not be returned together with a log row. -/
  | unlogs {result : ExecutionResult} {startedAt : Instant} {cause : QueueError} {w' : World σ}
      (n : Nat) (h : ReturnFails q job w) (hw : w.Stays w') :
      Steps q job answer w (.failed result startedAt cause)
        (.unlogged cause (q.dueAfter job w.now (q.word n)) w.now) w'
  | returnsRow {cause : QueueError} {due now : Instant} {w' : World σ}
      (hw : w.Becomes (w.tables.withBareReturn job cause due now)
        (job.failureEvents ++ w.events) w') :
      Steps q job answer w (.unlogged cause due now) (.ended (.error cause)) w'
  /-- The job could not be returned at all. -/
  | strands {cause : QueueError} {due now : Instant} {w' : World σ} (h : ReturnFails q job w)
      (hw : w.Stays w') :
      Steps q job answer w (.unlogged cause due now) (.stranded cause) w'
  | rests {stage : AttemptStage} (h : stage.isOpen = false) : Steps q job answer w stage stage w

/-! ## One step -/

theorem answered_meets (q : Queue σ) (job : Job) (answer : Answer) (startedAt : Instant)
    (w : World σ) :
    Meets (answered (fun _ w => (answer, w)) job startedAt) w
      (fun stage w' => Steps q job answer w (.executing startedAt) stage w')
      fun _ _ => False := by
  refine (Queue.execute_meets (fun _ w => (answer, w)) job w).bind_total fun result w₁ h₁ => ?_
  obtain ⟨rfl, h₁⟩ := h₁
  refine Meets.bind_total
    (Meets.clock (P := fun now w' => now = w.now ∧ w' = w₁) ⟨h₁.now, rfl⟩) fun now w₂ h₂ => ?_
  obtain ⟨rfl, rfl⟩ := h₂
  refine Meets.emit_bind fun w₃ h₃ => ?_
  rw [h₁.tables, h₁.events] at h₃
  exact .executes (h₁.trans h₃)

theorem finalized_meets (q : Queue σ) (job : Job) (answer : Answer) (result : ExecutionResult)
    (startedAt finishedAt : Instant) (n : Nat) (w : World σ) :
    Meets (finalized q job result startedAt finishedAt n) w
      (fun stage w' => Steps q job answer w (.executed result startedAt finishedAt n) stage w')
      fun _ _ => False := by
  refine Meets.recover
    (F := fun _ w' => w.Stays w' ∧ FinalizeFails q job result finishedAt w) ?_ fun e w₁ h₁ => ?_
  · refine (q.finalizeOnce_meets job result startedAt finishedAt w).bind (fun status w₁ h₁ => ?_)
      fun _ _ h => h
    exact .finalizes h₁
  · obtain ⟨h₁, hcause⟩ := h₁
    cases n with
    | zero => exact .fails hcause h₁
    | succ n =>
      cases htransient : e.isTransient with
      | true =>
        simp only [if_true]
        exact Meets.log_bind fun w₂ h₂ => .repeats hcause (h₁.trans_stays h₂)
      | false =>
        simp only [Bool.false_eq_true, if_false]
        exact .fails hcause h₁

/-- The return of a job is reported after it. -/
theorem released_meets (job : Job) (cause : QueueError) (w : World σ) :
    Meets (released job cause) w
      (fun stage w' => stage = .ended (.error cause) ∧
        w.Becomes w.tables (job.failureEvents ++ w.events) w')
      fun _ _ => False := by
  refine Meets.log_bind fun w₁ h₁ => ?_
  refine (Queue.reportFailed_meets job w₁).bind_total fun _ w₂ h₂ => ?_
  rw [h₁.tables, h₁.events] at h₂
  exact ⟨rfl, h₁.trans h₂⟩

theorem releasedLogged_meets (q : Queue σ) (job : Job) (answer : Answer)
    (result : ExecutionResult) (startedAt : Instant) (cause : QueueError) (w : World σ) :
    Meets (releasedLogged q job result startedAt cause) w
      (fun stage w' => Steps q job answer w (.failed result startedAt cause) stage w')
      fun _ _ => False := by
  refine Meets.bind_total (Meets.clock (P := fun now w' => now = w.now ∧ w' = w) ⟨rfl, rfl⟩)
    fun now w₁ h₁ => ?_
  obtain ⟨rfl, rfl⟩ := h₁
  refine (q.nextRunAt_meets job w₁.now w₁).bind_total fun due w₂ h₂ => ?_
  obtain ⟨rfl, h₂⟩ := h₂
  refine Meets.bind_total (P := fun isLogged w' =>
      (isLogged = true ∧ w₁.Becomes (w₁.tables.withReturn job result cause
        (q.dueAfter job w₁.now (q.word w₁.drawn)) startedAt w₁.now) w₁.events w') ∨
      isLogged = false ∧ w₁.Stays w' ∧ ReturnFails q job w₁) ?_ fun isLogged w₃ h₃ => ?_
  · refine Meets.recover (F := fun _ w' => w₁.Stays w' ∧ ReturnFails q job w₁) ?_
      fun _ _ h => .inr ⟨rfl, h⟩
    refine (q.releaseLogged_meets job result cause _ startedAt w₁.now w₂).bind
      (fun _ w₃ h₃ => ?_) fun _ _ h => ⟨h₂.trans_stays h.1, ?_⟩
    · rw [h₂.tables, h₂.events] at h₃
      exact .inl ⟨rfl, h₂.trans h₃⟩
    · exact h.2.imp id fun hnone => h₂.tables ▸ hnone
  · obtain ⟨rfl, h₃⟩ | ⟨rfl, h₃, hcause⟩ := h₃
    · refine (released_meets job cause w₃).mono (fun stage w₄ h₄ => ?_) fun _ _ h => h
      obtain ⟨rfl, h₄⟩ := h₄
      rw [h₃.tables, h₃.events] at h₄
      exact .returns w₁.drawn (h₃.trans h₄)
    · exact Meets.log_bind fun w₄ h₄ => .unlogs w₁.drawn hcause (h₃.trans_stays h₄)

theorem releasedRow_meets (q : Queue σ) (job : Job) (answer : Answer) (cause : QueueError)
    (due now : Instant) (w : World σ) :
    Meets (releasedRow q job cause due now) w
      (fun stage w' => Steps q job answer w (.unlogged cause due now) stage w')
      fun _ _ => False := by
  refine Meets.bind_total (P := fun isDone w' => (isDone, w') = q.releaseRow job cause due now w)
    (show Meets (modifyGet _) w _ _ from rfl) fun isDone w₁ h₁ => ?_
  obtain ⟨hdone, hw⟩ | ⟨hdone, hw, hcause⟩ := q.releaseRow_cases job cause due now w
  · rw [← h₁] at hdone hw
    obtain rfl : isDone = true := hdone
    refine (released_meets job cause w₁).mono (fun stage w₂ h₂ => ?_) fun _ _ h => h
    obtain ⟨rfl, h₂⟩ := h₂
    rw [hw.tables, hw.events] at h₂
    exact .returnsRow (hw.trans h₂)
  · rw [← h₁] at hdone hw
    obtain rfl : isDone = false := hdone
    exact Meets.log_bind fun w₂ h₂ => .strands hcause (World.Becomes.trans_stays hw h₂)

/-- **A step of an attempt** is one of those listed. -/
theorem step_meets (q : Queue σ) (job : Job) (answer : Answer) (stage : AttemptStage)
    (w : World σ) :
    Meets (stage.step q (fun _ w => (answer, w)) job) w
      (fun stage' w' => Steps q job answer w stage stage' w') fun _ _ => False := by
  cases stage with
  | claimed => exact .begins
  | executing startedAt => exact answered_meets q job answer startedAt w
  | executed result startedAt finishedAt n =>
    exact finalized_meets q job answer result startedAt finishedAt n w
  | failed result startedAt cause =>
    exact releasedLogged_meets q job answer result startedAt cause w
  | unlogged cause due now => exact releasedRow_meets q job answer cause due now w
  | ended answer => exact .rests rfl
  | stranded cause => exact .rests rfl

/-! ## What is written -/

/-- The attempt has neither been finalized nor its job returned. -/
def isOutstanding : AttemptStage → Bool
  | ended _ => false
  | _ => true

theorem isOutstanding_of_isOpen {stage : AttemptStage} (h : stage.isOpen) :
    stage.isOutstanding := by
  cases stage <;> first | rfl | cases h

end AttemptStage

namespace Tables

variable (t : Tables) (policy : BreakerPolicy) (key : SyncKey) (n : Int) (now : Instant)

@[simp] theorem jobs_putStat (stat : FailureStat) : (t.putStat stat).jobs = t.jobs := by
  unfold putStat
  split <;> rfl

@[simp] theorem jobs_raiseAlert (message : String) :
    (t.raiseAlert key message now).jobs = t.jobs := by
  unfold raiseAlert
  split <;> rfl

@[simp] theorem jobs_withFailure : (t.withFailure policy key n now).jobs = t.jobs := by
  unfold withFailure
  dsimp only
  split <;> simp

end Tables

/-- What the end of an attempt makes of the stored row of its job. -/
inductive Job.Settles (held : Job) : (Job → Job) → Prop where
  | completed (now : Instant) : Settles held (·.completed now)
  | failed (due : Instant) (summary : String) (now : Instant) :
      Settles held (held.afterFailure due summary now)

namespace Job.Settles

variable {held : Job} {write : Job → Job}

theorem id_eq (h : held.Settles write) (row : Job) : (write row).id = row.id := by
  cases h <;> rfl

theorem idempotencyKey_eq (h : held.Settles write) (row : Job) :
    (write row).idempotencyKey = row.idempotencyKey := by
  cases h <;> rfl

theorem maxRetries_eq (h : held.Settles write) (row : Job) :
    (write row).maxRetries = row.maxRetries := by
  cases h <;> rfl

/-- The write, as a change of the tables. -/
theorem rewrites (h : held.Settles write) {t t' : Tables}
    (hjobs : t'.jobs = (t.modifyJob held.id write).jobs) :
    ∃ write, held.Settles write ∧ t.Rewrites held.id write t' :=
  ⟨write, h, hjobs, h.id_eq⟩

end Job.Settles

namespace AttemptStage.Steps

variable {q : Queue σ} {job : Job} {answer : Answer} {w w' : World σ} {stage stage' : AttemptStage}

/-- **The row of a job** is written by the step that settles its attempt, and by no other step. -/
theorem row (h : Steps q job answer w stage stage' w') :
    (stage'.isOutstanding = stage.isOutstanding ∧ w'.tables.jobs = w.tables.jobs) ∨
      (stage.isOutstanding = true ∧ stage'.isOutstanding = false ∧
        ∃ write, job.Settles write ∧ w.tables.Rewrites job.id write w'.tables) := by
  cases h with
  | begins | rests => exact .inl ⟨rfl, rfl⟩
  | executes hw | repeats _ hw | fails _ hw | unlogs _ _ hw | strands _ hw =>
    exact .inl ⟨rfl, congrArg _ hw.tables⟩
  | @finalizes result startedAt finishedAt n status w' hw =>
    refine .inr ⟨rfl, rfl, ?_⟩
    cases hw with
    | success _ _ _ hw =>
      refine Job.Settles.rewrites (.completed finishedAt) ?_
      rw [hw.tables]
      rfl
    | failure _ n hw =>
      refine Job.Settles.rewrites (.failed (q.dueAfter job finishedAt (q.word n))
        (result.errorSummary.getD "") finishedAt) ?_
      rw [hw.tables]
      exact Tables.jobs_withFailure ..
  | @returns result startedAt cause w' n hw =>
    refine .inr ⟨rfl, rfl, Job.Settles.rewrites (.failed (q.dueAfter job w.now (q.word n))
      (Queue.releaseSummary cause) w.now) ?_⟩
    rw [hw.tables]
    rfl
  | @returnsRow cause due now w' hw =>
    refine .inr ⟨rfl, rfl, Job.Settles.rewrites (.failed due (Queue.releaseSummary cause) now) ?_⟩
    rw [hw.tables]
    rfl

/-- **Statistics and alerts** change with the end of an attempt that is finalized, and then by the
tracker; the return of a job leaves them as they are. -/
theorem breaker (h : Steps q job answer w stage stage' w') :
    ∃ t, t.stats = w.tables.stats ∧ t.alerts = w.tables.alerts ∧
      (w'.tables = t ∨ (∃ now, w'.tables = t.withSuccess job.key now) ∨
        ∃ now, w'.tables = t.withFailure q.breaker job.key job.nextRetryCount now) := by
  cases h with
  | begins | rests => exact ⟨w.tables, rfl, rfl, .inl rfl⟩
  | executes hw | repeats _ hw | fails _ hw | unlogs _ _ hw | strands _ hw =>
    exact ⟨w.tables, rfl, rfl, .inl hw.tables⟩
  | @finalizes result startedAt finishedAt _ _ _ hw =>
    cases hw with
    | success _ _ _ hw =>
      exact ⟨(w.tables.modifyJob job.id (·.completed finishedAt)).appendLog
        (job.attempt result startedAt finishedAt), rfl, rfl, .inr (.inl ⟨finishedAt, hw.tables⟩)⟩
    | failure _ m hw =>
      exact ⟨(w.tables.modifyJob job.id (job.afterFailure (q.dueAfter job finishedAt (q.word m))
        (result.errorSummary.getD "") finishedAt)).appendLog
        (job.attempt result startedAt finishedAt), rfl, rfl, .inr (.inr ⟨finishedAt, hw.tables⟩)⟩
  | returns _ hw | returnsRow hw => exact ⟨w'.tables, by rw [hw.tables]; rfl,
      by rw [hw.tables]; rfl, .inl rfl⟩

end AttemptStage.Steps

end SyncQueue
