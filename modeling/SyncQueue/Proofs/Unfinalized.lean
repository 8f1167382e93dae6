import SyncQueue.Proofs.Attempts
import SyncQueue.Proofs.Moves

/-!
# Attempts that cannot be finalized

When finalizing an attempt fails for good, nothing of it is left: neither the row of the job nor the
log, the statistics and the alerts have changed. Then the job is returned, in up to two tries. The
first one is a transaction that counts the attempt as a failure and logs it; the second one writes
the row alone. Whatever comes of them, the attempt ends with the error that finalizing it met.

* `Queue.finalize_meets`: finalizing that fails, after however many repeats, leaves no change.
* `Queue.release_returned`: what the return of a job writes, in each of its three cases.
* `Queue.saysFailed_afterFailure`: the row of a returned job says what a failed attempt would have
  made it say.
* `Queue.unfinalized`: what this means for an attempt of a job from any store.
-/

namespace SyncQueue

open Time (Instant)

variable {σ : Type}

namespace Queue

variable {q : Queue σ} {job row : Job} {result : ExecutionResult} {startedAt finishedAt : Instant}
  {cause : QueueError} {w w₁ : World σ}

/-! ## Finalizing that fails -/

/-- **Finalizing an attempt**, repeated or not, leaves no change when it fails in the end. -/
theorem finalize_meets (q : Queue σ) (job : Job) (result : ExecutionResult)
    (startedAt finishedAt : Instant) (retries : Nat) (w : World σ) :
    Meets (q.finalize job result startedAt finishedAt retries) w (fun _ _ => True)
      fun _ w' => w.Stays w' := by
  induction retries generalizing w with
  | zero =>
    exact (q.finalizeOnce_meets job result startedAt finishedAt w).mono (fun _ _ _ => trivial)
      fun _ _ h => h.1
  | succ retries ih =>
    refine Meets.recover (F := fun _ w' => w.Stays w') ?_ fun e w₁ h₁ => ?_
    · exact (q.finalizeOnce_meets job result startedAt finishedAt w).mono (fun _ _ _ => trivial)
        fun _ _ h => h.1
    · split
      · refine Meets.log_bind fun w₂ h₂ => ?_
        have h₂ : w.Stays w₂ := h₁.trans_stays h₂
        exact (ih w₂).mono (fun _ _ h => h) fun _ _ h => h₂.trans_stays h
      · exact Meets.throw h₁

/-! ## Returning the job -/

/-- The tables after the return of a job at the time `now`, whose first statement is sent at a
world. -/
def returned (q : Queue σ) (job : Job) (result : ExecutionResult) (cause : QueueError)
    (due startedAt now : Instant) (sending : World σ) (t : Tables) : Tables :=
  match q.releaseLogged job result cause due startedAt now sending with
  | .ok _ _ => t.withReturn job result cause due startedAt now
  | .error _ v =>
    if (q.releaseRow job cause due now (v.logged .releaseUnlogged)).1 then
      t.withBareReturn job cause due now
    else t

section Returned

variable (q : Queue σ) (job : Job) (result : ExecutionResult) (cause : QueueError)
  (due startedAt now : Instant) (sending : World σ) (t : Tables)

/-- The return of a job leaves the tracker alone. -/
theorem tracker_returned :
    (q.returned job result cause due startedAt now sending t).stats = t.stats ∧
      (q.returned job result cause due startedAt now sending t).alerts = t.alerts := by
  unfold returned
  split
  · exact ⟨rfl, rfl⟩
  · split <;> exact ⟨rfl, rfl⟩

/-- The return of a job leaves all other jobs alone. -/
theorem job?_returned_of_ne {id : Uuid} (h : id ≠ job.id) :
    (q.returned job result cause due startedAt now sending t).job? id = t.job? id := by
  have hbare : (t.withBareReturn job cause due now).job? id = t.job? id := by
    rw [Tables.withBareReturn, Tables.job?_modifyJob fun _ => by rfl, if_neg h]
  unfold returned
  split
  · rw [← hbare]
    rfl
  · split
    · exact hbare
    · rfl

theorem job?_withBareReturn {t : Tables} {row : Job} (hrow : t.job? job.id = some row) :
    (t.withBareReturn job cause due now).job? job.id =
      some (job.afterFailure due (releaseSummary cause) now row) := by
  rw [Tables.withBareReturn, Tables.job?_modifyJob fun _ => by rfl, if_pos rfl, hrow,
    Option.map_some]

end Returned

/-- **Returning a job** ends without an error, whatever comes of its two tries. -/
theorem release_returned (q : Queue σ) (job : Job) (result : ExecutionResult) (cause : QueueError)
    (startedAt : Instant) (w : World σ) :
    ∃ drawn w', q.nextRunAt job w.now w = .ok (q.dueAfter job w.now (q.word w.drawn)) drawn ∧
      q.release job result cause startedAt w = .ok () w' ∧
      w'.tables = q.returned job result cause (q.dueAfter job w.now (q.word w.drawn)) startedAt
        w.now drawn w.tables := by
  obtain ⟨due, drawn, hdue, rfl, hdrawn⟩ := (q.nextRunAt_meets job w.now w).exists_ok
  generalize q.dueAfter job w.now (q.word w.drawn) = due at hdue ⊢
  refine ⟨drawn, ?_⟩
  have hreport (w₁ : World σ) : ∃ w', reportFailed job (w₁.logged .jobReleased) = .ok () w' ∧
      w'.tables = w₁.tables := by
    obtain ⟨_, w', hrun, hw'⟩ := (reportFailed_meets job (w₁.logged .jobReleased)).exists_ok
    exact ⟨w', hrun, hw'.tables⟩
  have htransaction := q.releaseLogged_meets job result cause due startedAt w.now drawn
  unfold release returned
  simp only [bind_apply, clock_apply, hdue, recover_apply]
  cases hrun : q.releaseLogged job result cause due startedAt w.now drawn with
  | ok u w₁ =>
    obtain ⟨w', hw', htables⟩ := hreport w₁
    have hwrites := (htransaction.ok_of_eq hrun).tables
    rw [hdrawn.tables] at hwrites
    refine ⟨w', trivial, ?_, htables.trans hwrites⟩
    simp only [pure_apply, if_true, bind_apply, log_apply, hw']
  | error e w₁ =>
    have hstays : w.Stays (w₁.logged .releaseUnlogged) :=
      (hdrawn.trans_stays (htransaction.error_of_eq hrun).1).trans_stays (w₁.stays_logged _)
    have hrow := q.releaseRow_cases job cause due w.now (w₁.logged .releaseUnlogged)
    simp only [log_apply, modifyGet_apply]
    generalize q.releaseRow job cause due w.now (w₁.logged .releaseUnlogged) = r at hrow
    obtain ⟨done, w₂⟩ := r
    obtain ⟨hdone, hw₂⟩ | ⟨hdone, hw₂, -⟩ := hrow
    · obtain rfl : done = true := hdone
      obtain ⟨w', hw', htables⟩ := hreport w₂
      have hwrites := hw₂.tables
      rw [hstays.tables] at hwrites
      refine ⟨w', trivial, ?_, htables.trans hwrites⟩
      simp only [Bool.not_true, Bool.false_eq_true, if_false, pure_apply, if_true, bind_apply,
        log_apply, hw']
    · obtain rfl : done = false := hdone
      refine ⟨w₂.logged .releaseFailed, trivial, ?_, (hstays.trans_stays hw₂).tables⟩
      simp only [Bool.not_false, if_true, bind_apply, log_apply, pure_apply, Bool.false_eq_true,
        if_false]

/-! ## Attempts -/

/-- The world in which a consumer has a claimed job executed. -/
def processing (consumer : Nat) (job : Job) (w : World σ) : World σ :=
  { setInFlight consumer true w with underway := some job }

/-- The world after the attempt of a job by a consumer, put back as it was around the attempt. -/
def processed (consumer : Nat) (before after : World σ) : World σ :=
  setInFlight consumer false { after with underway := before.underway }

@[simp] theorem flags_setInFlight (consumer : Nat) (inFlight : Bool) (w : World σ) :
    (setInFlight consumer inFlight w).flags consumer = { w.flags consumer with inFlight } := by
  simp [setInFlight, World.withFlags]

/-- Around an attempt nothing but the flag of the consumer and the job under way changes. -/
theorem processJob_apply (consumer : Nat) (executor : Executor σ) (v : World σ) :
    q.processJob consumer executor job v =
      match q.attempt executor job (processing consumer job v) with
      | .ok status w' => .ok status (processed consumer v w')
      | .error e w' => .error e (processed consumer v w') := by
  have hworld : ({ setInFlight consumer true v with underway := some job } : World σ) =
    processing consumer job v := rfl
  simp only [processJob, during, bind_apply, get_apply, modify_apply, finallyModify, hworld]
  cases q.attempt executor job (processing consumer job v) <;> rfl

/-- An attempt ends as it is settled. -/
theorem processJob_eq {consumer : Nat} {executor : Executor σ} {v v₁ : World σ}
    (hexecute : execute executor job (processing consumer job v) = .ok result v₁) :
    q.processJob consumer executor job v =
      match q.settle job result v.now v₁.now (v₁.emitted (.duration result.outcome)) with
      | .ok status w' => .ok status (processed consumer v w')
      | .error e w' => .error e (processed consumer v w') := by
  have hattempt : q.attempt executor job (processing consumer job v) =
      q.settle job result v.now v₁.now (v₁.emitted (.duration result.outcome)) := by
    simp only [attempt, bind_apply, clock_apply, hexecute, emit_apply]
    rfl
  rw [processJob_apply, hattempt]

/-- An attempt ends with the error with which it is settled. -/
theorem processJob_error {consumer : Nat} {executor : Executor σ} {v v₁ w' : World σ}
    (hexecute : execute executor job (processing consumer job v) = .ok result v₁)
    (hsettle : q.settle job result v.now v₁.now (v₁.emitted (.duration result.outcome)) =
      .error cause w') :
    q.processJob consumer executor job v = .error cause (processed consumer v w') := by
  rw [processJob_eq hexecute, hsettle]

/-- The row of a job says what it would say if finalizing a failed attempt at the time `now` had
written it, with the same random word for the delay. -/
def SaysFailed (q : Queue σ) (job row : Job) (now : Instant) (word : Nat) (released : Job) : Prop :=
  ∀ (q' : Queue σ) (result : ExecutionResult) (startedAt : Instant) (v v' : World σ),
    q'.backoff = q.backoff → q'.word v.drawn = word → v.tables.job? job.id = some row →
    q'.commitFailure job result startedAt now v = .ok () v' →
      ∃ finalized, v'.tables.job? job.id = some finalized ∧
        released.status = finalized.status ∧ released.retryCount = finalized.retryCount ∧
        released.nextRunAt = finalized.nextRunAt

theorem saysFailed_afterFailure (q : Queue σ) (job row : Job) (now : Instant) (word : Nat)
    (summary : String) :
    q.SaysFailed job row now word (job.afterFailure (q.dueAfter job now word) summary now row) := by
  intro q' result startedAt v v' hbackoff hword hrow hcommit
  have hv' := ((q'.commitFailure_meets job result startedAt now v).ok_of_eq hcommit).2
  have hdue : q'.dueAfter job now (q'.word v.drawn) = q.dueAfter job now word := by
    rw [dueAfter, dueAfter, hbackoff, hword]
  refine ⟨job.afterFailure (q.dueAfter job now word) (result.errorSummary.getD "") now row, ?_,
    rfl, rfl, rfl⟩
  have hjobs : v'.tables.jobs = (v.tables.modifyJob job.id (job.afterFailure
      (q.dueAfter job now word) (result.errorSummary.getD "") now)).jobs := by
    rw [hv'.tables, hdue]
    exact Tables.jobs_withFailure ..
  rw [Tables.job?_congr hjobs, Tables.job?_modifyJob fun _ => by rfl, if_pos rfl, hrow,
    Option.map_some]

/-- **An attempt that cannot be finalized** ends with the error of its finalizing. It leaves the
statistics, the alerts and the rows of all other jobs as they were. The row of its own job

1. is written as after a failed attempt, and the attempt is logged as a failure, if the transaction
   for that commits,
2. is written in the same way without a log row, if that transaction fails and the write of the row
   alone does not,
3. stays as it was, if both fail. -/
theorem unfinalized (q : Queue σ) (hrow : w.tables.job? job.id = some row)
    (hfails : q.finalize job result startedAt finishedAt finalizeRetries w = .error cause w₁) :
    ∃ due drawn w',
      q.settle job result startedAt finishedAt w = .error cause w' ∧
      (∀ consumer executor v v₁, startedAt = v.now → finishedAt = v₁.now →
        execute executor job (processing consumer job v) = .ok result v₁ →
        w = v₁.emitted (.duration result.outcome) →
        q.processJob consumer executor job v = .error cause (processed consumer v w')) ∧
      w'.tables.stats = w.tables.stats ∧ w'.tables.alerts = w.tables.alerts ∧
      (∀ id, id ≠ job.id → w'.tables.job? id = w.tables.job? id) ∧
      q.nextRunAt job w.now w₁ = .ok due drawn ∧
      let summary := "finalize failed: " ++ cause.message
      let released := job.afterFailure due summary w.now row
      released.lastError = some summary ∧
      q.SaysFailed job row w.now (q.word w₁.drawn) released ∧
      (∀ v, q.releaseLogged job result cause due startedAt w.now drawn = .ok () v →
        w'.tables.job? job.id = some released ∧
        w'.tables.logs = w.tables.logs ++
          [{  jobId := job.id
              key := job.key
              startedAt
              finishedAt := w.now
              processedEvents := result.processedEvents
              failedEvents := result.failedEvents
              outcome := .failure
              errorSummary := some summary }]) ∧
      (∀ e v, q.releaseLogged job result cause due startedAt w.now drawn = .error e v →
        (q.releaseRow job cause due w.now (v.logged .releaseUnlogged)).1 = true →
        w'.tables.job? job.id = some released ∧ w'.tables.logs = w.tables.logs) ∧
      ∀ e v, q.releaseLogged job result cause due startedAt w.now drawn = .error e v →
        (q.releaseRow job cause due w.now (v.logged .releaseUnlogged)).1 = false →
        w'.tables = w.tables := by
  have hw₁ : w.Stays w₁ :=
    (q.finalize_meets job result startedAt finishedAt finalizeRetries w).error_of_eq hfails
  obtain ⟨drawn, w', hdue, hrelease, htables⟩ := q.release_returned job result cause startedAt w₁
  rw [hw₁.now] at hdue htables
  rw [hw₁.tables] at htables
  have hsays := q.saysFailed_afterFailure job row w.now (q.word w₁.drawn) (releaseSummary cause)
  generalize q.dueAfter job w.now (q.word w₁.drawn) = due at hdue htables hsays
  have hsettle : q.settle job result startedAt finishedAt w = .error cause w' := by
    simp only [settle, recover_apply, hfails, bind_apply, hrelease, throw_apply]
  obtain ⟨hstats, halerts⟩ :=
    q.tracker_returned job result cause due startedAt w.now drawn w.tables
  rw [← htables] at hstats halerts
  have hothers (id : Uuid) (hid : id ≠ job.id) : w'.tables.job? id = w.tables.job? id := by
    rw [htables, job?_returned_of_ne _ _ _ _ _ _ _ _ _ hid]
  have hown := job?_withBareReturn job cause due w.now hrow
  refine ⟨due, drawn, w', hsettle, ?_, hstats, halerts, hothers, hdue, rfl, hsays, ?_, ?_, ?_⟩
  · rintro consumer executor v v₁ rfl rfl hexecute rfl
    exact processJob_error hexecute hsettle
  · intro v hlogged
    rw [htables, returned, hlogged]
    exact ⟨hown, rfl⟩
  · intro e v hunlogged hdone
    rw [htables, returned, hunlogged]
    dsimp only
    rw [if_pos hdone]
    exact ⟨hown, rfl⟩
  · intro e v hunlogged hdone
    rw [htables, returned, hunlogged]
    dsimp only
    rw [hdone, if_neg Bool.false_ne_true]

/-- A job that a consumer holds. -/
def heldOnce : Job where
  id := ⟨0⟩
  key := ⟨⟨1⟩, ⟨2⟩⟩
  windowStart := ⟨0⟩
  windowEnd := ⟨1⟩
  payload := .null
  status := .inProgress
  priority := 0
  retryCount := 0
  maxRetries := 3
  nextRunAt := ⟨0⟩
  lastError := none
  idempotencyKey := none
  createdAt := ⟨0⟩
  updatedAt := ⟨0⟩

/-- The small queue on a store that refuses to change statistics rows. -/
def refusing : Queue Unit :=
  { Queue.plain with
    faults _ s :=
      if s.kind = .update ∧ s.tables = [.stats] then some .recordNotUpdated else none }

/-- The job of an executor that succeeded is tried again, as after a failure. -/
theorem unfinalized_refused :
    ∃ cause w', refusing.settle heldOnce (.success 3 1) ⟨0⟩ ⟨7⟩
        (.initial ⟨9⟩ { Tables.empty with jobs := [heldOnce] } ()) = .error cause w' ∧
      w'.tables.stats = [] ∧
      (w'.tables.job? ⟨0⟩).map (fun row => (row.status, row.retryCount)) = some (.retrying, 1) ∧
      w'.tables.logs.map (fun log => (log.outcome, log.processedEvents)) = [(.failure, 3)] := by
  have hrow : (World.initial ⟨9⟩ { Tables.empty with jobs := [heldOnce] } ()).tables.job?
      heldOnce.id = some heldOnce := rfl
  obtain ⟨due, drawn, w', hsettle, -, hstats, -, -, hdue, -, -, hlogged, -⟩ :=
    refusing.unfinalized hrow (rfl : refusing.finalize heldOnce (.success 3 1) ⟨0⟩ ⟨7⟩
      finalizeRetries _ = .error _ _)
  cases hdue
  obtain ⟨hjob, hlogs⟩ := hlogged _ rfl
  refine ⟨_, w', hsettle, hstats, ?_, ?_⟩
  · rw [show (⟨0⟩ : Uuid) = heldOnce.id from rfl, hjob]
    rfl
  · rw [hlogs]
    rfl

end Queue

end SyncQueue
