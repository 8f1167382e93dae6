import SyncQueue.Proofs.Tracking

/-!
# What the transactions write

Each transaction of a consumer is one change of the tables. This module names the changes
(`Tables.withClaim`, `Tables.withCompletion`, `Tables.withFailedAttempt`, `Tables.withReturn`,
`Tables.withBareReturn`) and shows that the transactions make them, or leave the tables as they
were:

* `claim_meets` for claiming,
* `finalizeOnce_meets` for one try to finalize an attempt, with the events that it reports,
* `releaseLogged_meets` and `releaseRow_cases` for the two ways to return a job.
-/

namespace SyncQueue

open Time (Instant)

variable {σ : Type}

/-! ## The changes -/

namespace Tables

/-- The tables after a job has been claimed. -/
def withClaim (t : Tables) (id : Uuid) (now : Instant) : Tables := t.modifyJob id (·.claimed now)

theorem rewrites_withClaim {t t' : Tables} {id : Uuid} {now : Instant}
    (h : t' = t.withClaim id now) : t.Rewrites id (·.claimed now) t' where
  jobs := congrArg _ h
  id_eq _ := rfl

/-- The tables after an attempt that succeeded. -/
def withCompletion (t : Tables) (job : Job) (result : ExecutionResult)
    (startedAt finishedAt : Instant) : Tables :=
  ((t.modifyJob job.id (·.completed finishedAt)).appendLog
    (job.attempt result startedAt finishedAt)).withSuccess job.key finishedAt

/-- The tables after an attempt that failed. -/
def withFailedAttempt (t : Tables) (policy : BreakerPolicy) (job : Job) (due : Instant)
    (result : ExecutionResult) (startedAt finishedAt : Instant) : Tables :=
  ((t.modifyJob job.id (job.afterFailure due (result.errorSummary.getD "") finishedAt)).appendLog
    (job.attempt result startedAt finishedAt)).withFailure policy job.key job.nextRetryCount
      finishedAt

/-- The tables after a job alone has been returned. -/
def withBareReturn (t : Tables) (job : Job) (cause : QueueError) (due now : Instant) : Tables :=
  t.modifyJob job.id (job.afterFailure due (Queue.releaseSummary cause) now)

/-- The tables after a job has been returned and its attempt logged. -/
def withReturn (t : Tables) (job : Job) (result : ExecutionResult) (cause : QueueError)
    (due startedAt now : Instant) : Tables :=
  (t.withBareReturn job cause due now).appendLog <|
    job.attempt (.failure result.processedEvents result.failedEvents (Queue.releaseSummary cause))
      startedAt now

end Tables

/-- The due time after a failed attempt, with the random word that it takes. -/
def Queue.dueAfter (q : Queue σ) (job : Job) (now : Instant) (word : Nat) : Instant :=
  if job.isLastAttempt then job.nextRunAt else q.backoff.nextRunAt job.delayAttempt now word

/-- The events of a failed attempt, newest first. -/
def Job.failureEvents (job : Job) : List Event :=
  if job.isLastAttempt then [.status job.nextStatus job.key.connector]
  else [.retry job.key.connector, .status job.nextStatus job.key.connector]

/-- The event is about the queue depth. -/
def Event.isDepth : Event → Bool
  | refresh | depth _ => true
  | _ => false

/-! ## Claiming -/

namespace Tables

theorem mem_of_first? {α : Type} {before : α → α → Bool} {rows : List α} {a : α}
    (h : first? before rows = some a) : a ∈ rows := by
  induction rows generalizing a with
  | nil => cases h
  | cons b rows ih =>
    simp only [first?] at h
    cases hrest : first? before rows with
    | none =>
      rw [hrest] at h
      cases h
      exact List.mem_cons_self
    | some c =>
      rw [hrest] at h
      dsimp only at h
      split at h
      · cases h
        exact List.mem_cons_of_mem _ (ih hrest)
      · cases h
        exact List.mem_cons_self

theorem first?_eq_none {α : Type} {before : α → α → Bool} {rows : List α} :
    first? before rows = none ↔ rows = [] := by
  cases rows with
  | nil => simp [first?]
  | cons a rows =>
    simp only [first?, reduceCtorEq, iff_false]
    split
    · simp
    · split <;> simp

theorem mem_of_best? {t : Tables} {now : Instant} {job : Job} (h : t.best? now = some job) :
    job ∈ t.jobs ∧ t.isEligible now job :=
  List.mem_filter.1 (mem_of_first? h)

/-- The job that is claimed next is claimable. -/
theorem isClaimable_of_best? {t : Tables} {now : Instant} {job : Job} (h : t.best? now = some job) :
    job.status.isClaimable := by
  have heligible := (mem_of_best? h).2
  simp only [isEligible, Bool.and_eq_true] at heligible
  exact heligible.1.1

theorem isSome_job?_of_mem {t : Tables} {job : Job} (h : job ∈ t.jobs) :
    (t.job? job.id).isSome :=
  List.find?_isSome.2 ⟨job, h, by simp⟩

end Tables

namespace Queue

/-- **Claiming** marks the best eligible job, and nothing if there is none. -/
theorem claim_meets (q : Queue σ) (w : World σ) :
    Meets q.claim w
      (fun claimed w' =>
        (claimed = none ∧ w.tables.best? w.now = none ∧ w.Stays w') ∨
        ∃ job, claimed = some (job.claimed w.now) ∧ w.tables.best? w.now = some job ∧
          w.Becomes (w.tables.withClaim job.id w.now) w.events w')
      fun _ w' => w.Stays w' ∧ q.IsFallible := by
  unfold claim
  refine Meets.bind_total (Meets.clock (P := fun now w' => now = w.now ∧ w' = w) ⟨rfl, rfl⟩)
    fun now w₁ h₁ => ?_
  obtain ⟨rfl, rfl⟩ := h₁
  refine (q.transaction_meets (C := False) (P := fun (claimed : Option Job) t =>
      (claimed = none ∧ w₁.tables.best? w₁.now = none ∧ t = w₁.tables) ∨
      ∃ job, claimed = some (job.claimed w₁.now) ∧ w₁.tables.best? w₁.now = some job ∧
        t = w₁.tables.withClaim job.id w₁.now) fun opened hopened _ => ?_).bind
    (fun claimed w₂ h₂ => ?_) fun _ _ h => ⟨h.1, h.2.resolve_right id⟩
  · refine (q.read_meets [.jobs, .stats] (·.best? w₁.now) opened).within.bind
      (fun best w₂ h₂ => ?_) fun _ _ h => ⟨h.1.writes, .inl h.2⟩
    obtain ⟨rfl, h₂⟩ := h₂
    rw [hopened.tables]
    cases hbest : w₁.tables.best? w₁.now with
    | none =>
      refine (q.commit_meets _ w₂).bind (fun _ w₃ h₃ => ?_)
        fun _ _ h => ⟨(h₂.trans_stays h.1).writes, .inl h.2⟩
      have h₃ := h₂.trans_stays h₃
      exact ⟨.inl ⟨rfl, rfl, by rw [h₃.tables, hopened.tables]⟩, h₃.writes⟩
    | some job =>
      refine (q.updateJob_meets job.id (·.claimed w₁.now) w₂).within.bind (fun _ w₃ h₃ => ?_)
        fun _ _ h => ⟨(h₂.trans_stays h.1).writes, .inl (h.2.resolve_right fun hnone => ?_)⟩
      · replace h₃ := World.Becomes.step h₂ h₃.2
        refine (q.commit_meets _ w₃).bind (fun _ w₄ h₄ => ?_)
          fun _ _ h => ⟨(h₃.trans_stays h.1).writes, .inl h.2⟩
        have h₄ := h₃.trans_stays h₄
        refine ⟨.inr ⟨job, rfl, rfl, ?_⟩, h₄.writes⟩
        rw [h₄.tables, h₂.tables, hopened.tables]
        rfl
      · -- the row was just read, so it is there
        have hmem := Tables.isSome_job?_of_mem (Tables.mem_of_best? hbest).1
        rw [h₂.tables, hopened.tables] at hnone
        rw [hnone] at hmem
        cases hmem
  · obtain ⟨⟨rfl, hbest, ht⟩ | ⟨job, rfl, hbest, ht⟩, h₂⟩ := h₂
    · rw [ht] at h₂
      exact .inl ⟨rfl, hbest, h₂⟩
    · rw [ht] at h₂
      exact .inr ⟨job, rfl, hbest, h₂.trans_stays (w₂.stays_logged _)⟩

/-! ## Executing -/

/-- An executor always answers; errors and panics are only noted. -/
theorem execute_meets (executor : Executor σ) (job : Job) (w : World σ) :
    Meets (execute executor job) w
      (fun result w' => result = (executor job w).1.toResult ∧ (executor job w).2.Stays w')
      fun _ _ => False := by
  unfold execute
  simp only [Meets, bind_apply, modifyGet_apply]
  cases (executor job w).1 <;> exact ⟨rfl, rfl, rfl, rfl, rfl, rfl, rfl, rfl⟩

/-! ## Finalizing -/

theorem logAttempt_meets (q : Queue σ) (log : AttemptLog) (w : World σ) :
    Meets (q.logAttempt log) w
      (fun _ w' => w.Becomes (w.tables.appendLog log) w.events w')
      fun _ w' => w.Stays w' ∧ q.IsFallible :=
  (q.write_meets .insert .logs (fun _ => true) (·.appendLog log) w).within

/-- The transaction of an attempt that succeeded. -/
theorem commitSuccess_meets (q : Queue σ) (job : Job) (result : ExecutionResult)
    (startedAt finishedAt : Instant) (w : World σ) :
    Meets (q.commitSuccess job result startedAt finishedAt) w
      (fun _ w' => (w.tables.job? job.id).isSome ∧
        w.Becomes (w.tables.withCompletion job result startedAt finishedAt) w.events w')
      fun _ w' => w.Stays w' ∧ (q.IsFallible ∨ w.tables.job? job.id = none) := by
  refine (q.transaction_meets (P := fun (_ : Unit) t => (w.tables.job? job.id).isSome ∧
      t = w.tables.withCompletion job result startedAt finishedAt)
    fun opened hopened _ => ?_).mono (fun _ _ h => ⟨h.1.1, h.1.2 ▸ h.2⟩) fun _ _ h => h
  refine (q.updateJob_meets job.id (·.completed finishedAt) opened).within.bind
    (fun _ w₁ h₁ => ?_) fun _ _ h => ⟨h.1.writes, hopened.tables ▸ h.2⟩
  obtain ⟨hrow, h₁⟩ := h₁
  refine (q.logAttempt_meets (job.attempt result startedAt finishedAt) w₁).bind
    (fun _ w₂ h₂ => ?_) fun _ _ h => ⟨(h₁.step h.1).writes, .inl h.2⟩
  replace h₂ := h₁.step h₂
  refine (q.recordSuccess_meets job.key finishedAt w₂).bind (fun _ w₃ h₃ => ?_)
    fun _ _ h => ⟨(h₂.step h.1).writes, .inl h.2⟩
  replace h₃ := h₂.step h₃.2
  refine (q.commit_meets _ w₃).mono (fun _ w₄ h₄ => ?_)
    fun _ _ h => ⟨(h₃.step h.1).writes, .inl h.2⟩
  replace h₄ := h₃.step h₄
  refine ⟨⟨hopened.tables ▸ hrow, ?_⟩, h₄.writes⟩
  rw [h₄.tables, h₃.tables, h₂.tables, h₁.tables, hopened.tables]
  rfl

/-- Drawing the next due time takes the next random word at most. -/
theorem nextRunAt_meets (q : Queue σ) (job : Job) (now : Instant) (w : World σ) :
    Meets (q.nextRunAt job now) w
      (fun due w' => due = q.dueAfter job now (q.word w.drawn) ∧ w.Stays w')
      fun _ _ => False := by
  unfold nextRunAt dueAfter
  split
  · exact ⟨rfl, .refl w⟩
  · unfold drawNextRunAt
    cases q.backoff.usesChance <;>
      simp only [Meets, bind_apply, get_apply, Bool.false_eq_true, if_false, if_true]
    · exact ⟨rfl, .refl w⟩
    · exact ⟨rfl, rfl, rfl, rfl, rfl, rfl, rfl, rfl⟩

/-- The transaction of an attempt that failed. -/
theorem commitFailure_meets (q : Queue σ) (job : Job) (result : ExecutionResult)
    (startedAt finishedAt : Instant) (w : World σ) :
    Meets (q.commitFailure job result startedAt finishedAt) w
      (fun _ w' => ((w.tables.job? job.id).isSome ∧ CanCount w.tables job.key finishedAt) ∧
        w.Becomes (w.tables.withFailedAttempt q.breaker job
          (q.dueAfter job finishedAt (q.word w.drawn)) result startedAt finishedAt) w.events w')
      fun _ w' => w.Stays w' ∧ (q.IsFallible ∨ w.tables.job? job.id = none ∨
        ¬ CanCount w.tables job.key finishedAt) := by
  refine (q.transaction_meets (P := fun (_ : Unit) t =>
      ((w.tables.job? job.id).isSome ∧ CanCount w.tables job.key finishedAt) ∧
        t = w.tables.withFailedAttempt q.breaker job
          (q.dueAfter job finishedAt (q.word w.drawn)) result startedAt finishedAt)
    fun opened hopened hdrawn => ?_).mono (fun _ _ h => ⟨h.1.1, h.1.2 ▸ h.2⟩) fun _ _ h => h
  refine (q.nextRunAt_meets job finishedAt opened).bind_total fun due w₁ h₁ => ?_
  obtain ⟨rfl, h₁⟩ := h₁
  rw [hdrawn]
  refine (q.updateJob_meets job.id _ w₁).within.bind (fun _ w₂ h₂ => ?_)
    fun _ _ h => ⟨(h₁.trans_stays h.1).writes, h.2.imp id fun hnone => .inl ?_⟩
  · obtain ⟨hrow, h₂⟩ := h₂
    replace h₂ := World.Becomes.step h₁ h₂
    refine (q.logAttempt_meets (job.attempt result startedAt finishedAt) w₂).bind
      (fun _ w₃ h₃ => ?_) fun _ _ h => ⟨(h₂.step h.1).writes, .inl h.2⟩
    replace h₃ := h₂.step h₃
    have hcan : CanCount w₃.tables job.key finishedAt ↔ CanCount w.tables job.key finishedAt := by
      rw [h₃.tables, h₂.tables, h₁.tables, hopened.tables]
      rfl
    refine (q.recordFailure_meets q.breaker job.key job.nextRetryCount finishedAt w₃).bind
      (fun _ w₄ h₄ => ?_)
      fun _ _ h => ⟨(h₃.step h.1).writes, h.2.imp id fun hnot => .inr fun hc => hnot (hcan.2 hc)⟩
    obtain ⟨-, hcounted, h₄⟩ := h₄
    replace h₄ := h₃.step h₄
    refine (q.commit_meets _ w₄).mono (fun _ w₅ h₅ => ?_)
      fun _ _ h => ⟨(h₄.step h.1).writes, .inl h.2⟩
    replace h₅ := h₄.step h₅
    rw [h₁.tables, hopened.tables] at hrow
    refine ⟨⟨⟨hrow, hcan.1 hcounted⟩, ?_⟩, h₅.writes⟩
    rw [h₅.tables, h₄.tables, h₃.tables, h₂.tables, h₁.tables, hopened.tables]
    rfl
  · rw [← hopened.tables, ← h₁.tables]
    exact hnone

/-- The queue depth is measured for the sink, and a failure of that is only noted. -/
theorem refreshDepth_meets (q : Queue σ) (w : World σ) :
    Meets (recover q.refreshDepth fun _ => log .depthUnknown) w
      (fun _ w' => ∃ noise, (∀ e ∈ noise, Event.isDepth e) ∧
        w.Becomes w.tables (noise ++ w.events) w')
      fun _ _ => False := by
  refine Meets.recover (F := fun _ w' => ∃ noise, (∀ e ∈ noise, Event.isDepth e) ∧
    w.Becomes w.tables (noise ++ w.events) w') ?_ fun _ w₁ ⟨noise, hnoise, h₁⟩ =>
      Meets.log ⟨noise, hnoise, h₁.trans_stays (w₁.stays_logged _)⟩
  unfold refreshDepth
  cases q.sink with
  | recording => exact Meets.emit ⟨[.refresh], by simp [Event.isDepth], w.becomes_emitted _⟩
  | failing text =>
    refine Meets.emit_bind fun w₁ h₁ => ?_
    exact Meets.throw ⟨[.refresh], by simp [Event.isDepth], h₁⟩
  | metrics =>
    refine (q.read_meets _ _ w).within.bind (fun count w₁ h₁ => ?_)
      fun _ w₁ h₁ => ⟨[], by simp, h₁.1⟩
    refine Meets.emit ⟨[.depth count], by simp [Event.isDepth], ?_⟩
    exact (h₁.2.events ▸ h₁.2.tables ▸ World.Becomes.trans h₁.2 (w₁.becomes_emitted (.depth count)))

theorem reportFailed_meets (job : Job) (w : World σ) :
    Meets (reportFailed job) w
      (fun _ w' => w.Becomes w.tables (job.failureEvents ++ w.events) w')
      fun _ _ => False := by
  unfold reportFailed Job.failureEvents
  cases job.isLastAttempt <;>
    exact ⟨rfl, rfl, rfl, rfl, rfl, rfl, rfl⟩

/-- What an attempt that is finalized leaves: its state, and the world with its writes and its
events. -/
inductive Finalizes (q : Queue σ) (job : Job) (result : ExecutionResult)
    (startedAt finishedAt : Instant) (w : World σ) : JobStatus → World σ → Prop where
  | success {w'} (h : result.isFailure = false) (noise : List Event)
      (hnoise : ∀ e ∈ noise, Event.isDepth e)
      (hw : w.Becomes (w.tables.withCompletion job result startedAt finishedAt)
        (noise ++ .status .completed job.key.connector :: w.events) w') :
      Finalizes q job result startedAt finishedAt w .completed w'
  | failure {w'} (h : result.isFailure = true) (n : Nat)
      (hw : w.Becomes (w.tables.withFailedAttempt q.breaker job
        (q.dueAfter job finishedAt (q.word n)) result startedAt finishedAt)
        (job.failureEvents ++ w.events) w') :
      Finalizes q job result startedAt finishedAt w job.nextStatus w'

/-- **Finalizing an attempt once** takes effect as a whole, with its events, or not at all. -/
theorem finalizeOnce_meets (q : Queue σ) (job : Job) (result : ExecutionResult)
    (startedAt finishedAt : Instant) (w : World σ) :
    Meets (q.finalizeOnce job result startedAt finishedAt) w
      (fun status w' => q.Finalizes job result startedAt finishedAt w status w')
      fun _ w' => w.Stays w' ∧ (q.IsFallible ∨ w.tables.job? job.id = none ∨
        result.isFailure = true ∧ ¬ CanCount w.tables job.key finishedAt) := by
  unfold finalizeOnce
  cases hresult : result.isFailure with
  | true =>
    refine (q.commitFailure_meets job result startedAt finishedAt w).bind
      (fun _ w₁ h₁ => ?_) fun _ _ h => ⟨h.1, h.2.imp id (Or.imp id fun h => ⟨rfl, h⟩)⟩
    refine Meets.log_bind fun w₂ h₂ => ?_
    replace h₂ := h₁.2.trans_stays h₂
    refine (reportFailed_meets job w₂).bind_total fun _ w₃ h₃ => ?_
    refine .failure hresult w.drawn ?_
    rw [h₂.tables, h₂.events] at h₃
    exact h₂.trans h₃
  | false =>
    refine (q.commitSuccess_meets job result startedAt finishedAt w).bind
      (fun _ w₁ h₁ => ?_) fun _ _ h => ⟨h.1, h.2.imp id .inl⟩
    refine Meets.log_bind fun w₂ h₂ => Meets.emit_bind fun w₃ h₃ => ?_
    replace h₂ := h₁.2.trans_stays h₂
    rw [h₂.tables, h₂.events] at h₃
    replace h₃ := h₂.trans h₃
    refine (q.refreshDepth_meets w₃).bind_total fun _ w₄ ⟨noise, hnoise, h₄⟩ => ?_
    refine .success hresult noise hnoise ?_
    rw [h₃.tables, h₃.events] at h₄
    exact h₃.trans h₄

/-! ## Releasing -/

theorem releaseLogged_meets (q : Queue σ) (job : Job) (result : ExecutionResult)
    (cause : QueueError) (due startedAt now : Instant) (w : World σ) :
    Meets (q.releaseLogged job result cause due startedAt now) w
      (fun _ w' =>
        w.Becomes (w.tables.withReturn job result cause due startedAt now) w.events w')
      fun _ w' => w.Stays w' ∧ (q.IsFallible ∨ w.tables.job? job.id = none) := by
  refine (q.transaction_meets (P := fun (_ : Unit) t =>
      t = w.tables.withReturn job result cause due startedAt now)
    fun opened hopened _ => ?_).mono (fun _ _ h => h.1 ▸ h.2) fun _ _ h => h
  refine (q.updateJob_meets job.id _ opened).within.bind
    (fun _ w₁ h₁ => ?_) fun _ _ h => ⟨h.1.writes, hopened.tables ▸ h.2⟩
  replace h₁ := h₁.2
  refine (q.logAttempt_meets _ w₁).bind (fun _ w₂ h₂ => ?_)
    fun _ _ h => ⟨(h₁.step h.1).writes, .inl h.2⟩
  replace h₂ := h₁.step h₂
  refine (q.commit_meets _ w₂).mono (fun _ w₃ h₃ => ?_)
    fun _ _ h => ⟨(h₂.step h.1).writes, .inl h.2⟩
  replace h₃ := h₂.step h₃
  refine ⟨?_, h₃.writes⟩
  rw [h₃.tables, h₂.tables, h₁.tables, hopened.tables]
  rfl

/-- Returning a job alone says itself whether it was done. -/
theorem releaseRow_cases (q : Queue σ) (job : Job) (cause : QueueError) (due now : Instant)
    (w : World σ) :
    ((q.releaseRow job cause due now w).1 = true ∧
        w.Becomes (w.tables.withBareReturn job cause due now) w.events
          (q.releaseRow job cause due now w).2) ∨
      ((q.releaseRow job cause due now w).1 = false ∧
        w.Stays (q.releaseRow job cause due now w).2 ∧
        (q.IsFallible ∨ w.tables.job? job.id = none)) := by
  have hupdate := q.updateJob_meets job.id (job.afterFailure due (releaseSummary cause) now) w
  unfold releaseRow
  cases hrun : q.updateJob job.id (job.afterFailure due (releaseSummary cause) now) w with
  | ok u w' => exact .inl ⟨rfl, (hupdate.ok_of_eq hrun).2⟩
  | error e w' => exact .inr ⟨rfl, hupdate.error_of_eq hrun⟩

end Queue

end SyncQueue
