import SyncQueue.Queue.Computation
import SyncQueue.Queue.Consumer

/-!
# Attempts, step by step

`Queue.attempt` takes a claimed job through execution, finalizing and, if that fails for good,
release. `AttemptStage` is the same attempt one transaction at a time, so that attempts of several
consumers can be interleaved. `AttemptStage.finish_claimed` says that an attempt whose steps follow
one another without a break is `Queue.attempt`.
-/

namespace SyncQueue

open Time (Instant)

variable {σ : Type}

/-- How far the attempt of a claimed job has come. -/
inductive AttemptStage where
  /-- Next the executor is called. -/
  | claimed
  /-- The executor was called at a time; next it answers. -/
  | executing (startedAt : Instant)
  /-- Next the attempt is finalized, and so many times again after errors that may pass. -/
  | executed (result : ExecutionResult) (startedAt finishedAt : Instant) (retries : Nat)
  /-- Finalizing failed for good; next the job is returned and the attempt logged. -/
  | failed (result : ExecutionResult) (startedAt : Instant) (cause : QueueError)
  /-- The attempt could not be logged; next the job alone is returned. -/
  | unlogged (cause : QueueError) (due now : Instant)
  | ended (answer : Except QueueError JobStatus)
  /-- The job could not be returned; it stays in progress, and nobody holds it. -/
  | stranded (cause : QueueError)

namespace AttemptStage

/-- The attempt has not ended. -/
def isOpen : AttemptStage → Bool
  | ended _ | stranded _ => false
  | _ => true

/-- Call the executor of a job and take its answer. -/
def answered (executor : Executor σ) (job : Job) (startedAt : Instant) : QueueM σ AttemptStage := do
  let result ← Queue.execute executor job
  let finishedAt ← clock
  emit (.duration result.outcome)
  return .executed result startedAt finishedAt Queue.finalizeRetries

/-- Finalize an attempt once. -/
def finalized (q : Queue σ) (job : Job) (result : ExecutionResult)
    (startedAt finishedAt : Instant) (retries : Nat) : QueueM σ AttemptStage :=
  recover (do return .ended (.ok (← q.finalizeOnce job result startedAt finishedAt))) fun e =>
    match retries with
    | retries + 1 =>
      if e.isTransient then do
        log .finalizeRepeated
        return .executed result startedAt finishedAt retries
      else return .failed result startedAt e
    | 0 => return .failed result startedAt e

/-- Report the return of a job and end its attempt with the error that led to it. -/
def released (job : Job) (cause : QueueError) : QueueM σ AttemptStage := do
  log .jobReleased
  Queue.reportFailed job
  return .ended (.error cause)

/-- Return a job and log its attempt. -/
def releasedLogged (q : Queue σ) (job : Job) (result : ExecutionResult) (startedAt : Instant)
    (cause : QueueError) : QueueM σ AttemptStage := do
  let now ← clock
  let due ← q.nextRunAt job now
  let logged ← recover (do q.releaseLogged job result cause due startedAt now; return true)
    fun _ => return false
  if logged then released job cause
  else do
    log .releaseUnlogged
    return .unlogged cause due now

/-- Return a job alone. -/
def releasedRow (q : Queue σ) (job : Job) (cause : QueueError) (due now : Instant) :
    QueueM σ AttemptStage := do
  let done ← modifyGet (q.releaseRow job cause due now)
  if done then released job cause
  else do
    log .releaseFailed
    return .stranded cause

/-- The next step of the attempt of a job. It never fails: a failure is a stage. -/
def step (q : Queue σ) (executor : Executor σ) (job : Job) : AttemptStage → QueueM σ AttemptStage
  | claimed => do return .executing (← clock)
  | executing startedAt => answered executor job startedAt
  | executed result startedAt finishedAt retries =>
    finalized q job result startedAt finishedAt retries
  | failed result startedAt cause => releasedLogged q job result startedAt cause
  | unlogged cause due now => releasedRow q job cause due now
  | ended answer => return .ended answer
  | stranded cause => return .stranded cause

/-- The most steps that an attempt takes: two for the execution, three to finalize it, and two to
return the job. -/
def maxSteps : Nat := 7

/-- Make steps until the attempt has ended, at most `fuel` of them. -/
def finish (q : Queue σ) (executor : Executor σ) (job : Job) : (fuel : Nat) → AttemptStage →
    QueueM σ AttemptStage
  | 0, s => return s
  | fuel + 1, s => do
    if s.isOpen then finish q executor job fuel (← s.step q executor job) else return s

/-- The answer of an attempt that has ended, as the answer of a computation. -/
def toAnswer : AttemptStage → QueueM σ (Option JobStatus)
  | ended (.ok status) => return some status
  | ended (.error e) => throw e
  | stranded e => throw e
  | _ => return none

end AttemptStage

/-! ## Steps without a break -/

/-- Drawing the next due time always succeeds. -/
theorem nextRunAt_ok (q : Queue σ) (job : Job) (now : Instant) (w : World σ) :
    ∃ due w', q.nextRunAt job now w = .ok due w' := by
  unfold Queue.nextRunAt
  split
  · exact ⟨_, _, rfl⟩
  · unfold Queue.drawNextRunAt
    cases h : q.backoff.usesChance <;> simp [bind_apply] <;> exact ⟨_, _, rfl⟩

/-- Reporting a failed attempt always succeeds. -/
theorem reportFailed_ok (job : Job) (w : World σ) :
    ∃ w', Queue.reportFailed job w = .ok () w' := by
  unfold Queue.reportFailed
  cases h : job.isLastAttempt <;> simp [bind_apply, emit_apply, pure_apply]

namespace AttemptStage

theorem finish_ended (q : Queue σ) (executor : Executor σ) (job : Job) (fuel : Nat)
    (answer : Except QueueError JobStatus) :
    finish q executor job fuel (ended answer) = pure (ended answer) := by
  cases fuel <;> rfl

theorem finish_stranded (q : Queue σ) (executor : Executor σ) (job : Job) (fuel : Nat)
    (cause : QueueError) :
    finish q executor job fuel (stranded cause) = pure (stranded cause) := by
  cases fuel <;> rfl

theorem finish_succ (q : Queue σ) (executor : Executor σ) (job : Job) (fuel : Nat)
    (s : AttemptStage) (h : s.isOpen = true) :
    finish q executor job (fuel + 1) s = s.step q executor job >>= finish q executor job fuel := by
  rw [finish, if_pos h]

theorem released_apply (job : Job) (cause : QueueError) (w : World σ) :
    ∃ w', released job cause w = .ok (ended (.error cause)) w' ∧ Queue.reportFailed job
      (w.logged .jobReleased) = .ok () w' := by
  obtain ⟨w', hw⟩ := reportFailed_ok job
    (w.logged .jobReleased)
  exact ⟨w', by simp only [released, bind_apply, log_apply, hw, pure_apply], hw⟩

theorem finish_failed (q : Queue σ) (executor : Executor σ) (job : Job) (fuel : Nat)
    (result : ExecutionResult) (startedAt : Instant) (cause : QueueError) (w : World σ) :
    (finish q executor job (fuel + 2) (failed result startedAt cause) >>= toAnswer) w =
      (do q.release job result cause startedAt; throw cause) w := by
  obtain ⟨due, w₁, hdue⟩ := nextRunAt_ok q job w.now w
  rw [finish_succ _ _ _ _ _ rfl]
  simp only [step, releasedLogged, Queue.release, bind_apply, clock_apply, hdue, recover_apply]
  cases hrel : q.releaseLogged job result cause due startedAt w.now w₁ with
  | ok u w₂ =>
    obtain ⟨w₃, hr, hf⟩ := released_apply job cause w₂
    simp only [pure_apply, if_true, hr, finish_ended, toAnswer, log_apply, bind_apply, hf,
      throw_apply]
  | error e w₂ =>
    simp only [pure_apply, Bool.false_eq_true, if_false, bind_apply, log_apply]
    rw [finish_succ _ _ _ _ _ rfl]
    simp only [step, releasedRow, bind_apply, modifyGet_apply]
    generalize q.releaseRow job cause due w.now _ = r
    obtain ⟨done, w₃⟩ := r
    cases done with
    | true =>
      obtain ⟨w₄, hr, hf⟩ := released_apply job cause w₃
      simp [pure_apply, hr, finish_ended, toAnswer, log_apply, bind_apply, hf, throw_apply]
    | false =>
      simp [pure_apply, finish_stranded, toAnswer, log_apply, bind_apply, throw_apply]

theorem finish_executed (q : Queue σ) (executor : Executor σ) (job : Job) (fuel : Nat)
    (result : ExecutionResult) (startedAt finishedAt : Instant) (retries : Nat) (w : World σ) :
    (finish q executor job (fuel + retries + 3) (executed result startedAt finishedAt retries) >>=
      toAnswer) w =
      (some <$> recover (q.finalize job result startedAt finishedAt retries) fun e => do
        q.release job result e startedAt
        throw e) w := by
  induction retries generalizing w with
  | zero =>
    rw [finish_succ _ _ _ _ _ rfl]
    simp only [step, finalized, Queue.finalize, recover_apply, bind_apply, map_apply]
    cases hf : q.finalizeOnce job result startedAt finishedAt w with
    | ok status w₁ => simp [pure_apply, finish_ended, toAnswer]
    | error e w₁ =>
      simp only [pure_apply]
      have h := finish_failed q executor job fuel result startedAt e w₁
      simp only [bind_apply, throw_apply] at h ⊢
      rw [h]
      cases q.release job result e startedAt w₁ <;> rfl
  | succ retries ih =>
    rw [finish_succ _ _ _ _ _ rfl]
    simp only [step, finalized, Queue.finalize, recover_apply, bind_apply, map_apply]
    cases hf : q.finalizeOnce job result startedAt finishedAt w with
    | ok status w₁ => simp [pure_apply, finish_ended, toAnswer]
    | error e w₁ =>
      cases ht : e.isTransient with
      | true =>
        simp only [ht, if_true, bind_apply, log_apply, pure_apply]
        have h := ih (w₁.logged .finalizeRepeated)
        simp only [bind_apply, map_apply, recover_apply] at h
        rw [← h, show fuel + (retries + 1) + 2 = fuel + retries + 3 by omega]
      | false =>
        simp only [ht, Bool.false_eq_true, if_false, pure_apply, throw_apply]
        have h := finish_failed q executor job (fuel + retries + 1) result startedAt e w₁
        simp only [bind_apply, throw_apply] at h ⊢
        rw [show fuel + (retries + 1) + 2 = fuel + retries + 1 + 2 by omega, h]
        cases q.release job result e startedAt w₁ <;> rfl

/-- An attempt whose steps follow one another without a break is the attempt of the consumer. -/
theorem finish_claimed (q : Queue σ) (executor : Executor σ) (job : Job) (w : World σ) :
    (finish q executor job maxSteps claimed >>= toAnswer) w =
      (some <$> q.attempt executor job) w := by
  have h₁ : maxSteps = 5 + 2 := rfl
  rw [h₁, finish_succ _ _ _ _ _ rfl]
  simp only [step, bind_apply, clock_apply, pure_apply, map_apply, Queue.attempt]
  rw [finish_succ _ _ _ _ _ rfl]
  simp only [step, answered, bind_apply, clock_apply, pure_apply, emit_apply]
  cases Queue.execute executor job w with
  | error e w₁ => rfl
  | ok result w₁ =>
    have h := finish_executed q executor job 0 result w.now w₁.now Queue.finalizeRetries
      (w₁.emitted (.duration result.outcome))
    simp only [bind_apply, map_apply] at h
    exact h

end AttemptStage

end SyncQueue
