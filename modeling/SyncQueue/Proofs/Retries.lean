import SyncQueue.Proofs.Processing

/-!
# Finalizing again

An attempt is finalized by a transaction that is sent again, up to twice, after errors that may
pass. The transaction is not idempotent: it adds a log row, counts a failure and raises an alert,
and its events follow. Since a try that fails leaves nothing behind, whatever statement it failed
at, the tries before the last one are not seen in what the attempt leaves.

* `Queue.Retried`: tries that fail with errors that may pass, one after the other.
* `Queue.finalize_of_isLast`, `Queue.exists_isLast`: finalizing is its last try.
* `Queue.IsFinalized`: what a try leaves that commits, whatever was tried before. Only the due time
  of the job depends on the random word that the try draws.
* `Queue.retries_transparent`: what this means for an attempt.
-/

namespace SyncQueue

open Time (Instant)

variable {σ : Type}

/-! ## Reports -/

/-- The event tells the state in which an attempt left its job. -/
def Event.isStatus : Event → Bool
  | status _ _ => true
  | _ => false

namespace Job

/-- The events that report an attempt, newest first. -/
def reports (job : Job) (result : ExecutionResult) : List Event :=
  if result.isFailure then job.failureEvents else [.status .completed job.key.connector]

theorem reports_of_failure {job : Job} {result : ExecutionResult} (h : result.isFailure = true) :
    job.reports result = job.failureEvents :=
  if_pos h

theorem reports_of_success {job : Job} {result : ExecutionResult} (h : result.isFailure = false) :
    job.reports result = [.status .completed job.key.connector] := by
  rw [reports, h, if_neg Bool.false_ne_true]

/-- An attempt is reported with one state. -/
theorem countP_isStatus_reports (job : Job) (result : ExecutionResult) :
    (job.reports result).countP Event.isStatus = 1 := by
  unfold reports failureEvents
  split
  · split <;> rfl
  · rfl

theorem filter_isDepth_reports (job : Job) (result : ExecutionResult) :
    (job.reports result).filter (!·.isDepth) = job.reports result := by
  unfold reports failureEvents
  split
  · split <;> rfl
  · rfl

end Job

theorem Event.countP_isStatus_filter (events : List Event) :
    (events.filter (!·.isDepth)).countP isStatus = events.countP isStatus := by
  rw [List.countP_filter]
  refine List.countP_congr fun e _ => ?_
  cases e <;> simp [isStatus, isDepth]

/-! ## Due times -/

namespace Tables

/-- The tables with another due time of a job. -/
def withDue (t : Tables) (id : Uuid) (due : Instant) : Tables :=
  t.modifyJob id fun row => { row with nextRunAt := due }

theorem modifyJob_modifyJob (t : Tables) (id : Uuid) {f g : Job → Job}
    (hid : ∀ row, (f row).id = row.id) :
    (t.modifyJob id f).modifyJob id g = t.modifyJob id (g ∘ f) := by
  have hkeep (row : Job) (h : decide (row.id = id) = true) : decide ((f row).id = id) = true := by
    rwa [hid]
  exact congrArg (fun jobs => { t with jobs }) (modifyFirst_modifyFirst hkeep)

/-- A failure of a key does not look at the rows of jobs. -/
theorem withFailure_modifyJob (t : Tables) (id : Uuid) (f : Job → Job) (policy : BreakerPolicy)
    (key : SyncKey) (n : Int) (now : Instant) :
    (t.modifyJob id f).withFailure policy key n now =
      (t.withFailure policy key n now).modifyJob id f := by
  have hput (stat : FailureStat) :
      (t.putStat stat).modifyJob id f = (t.modifyJob id f).putStat stat :=
    apply_ite (modifyJob · id f) _ _ _
  have hraise (t : Tables) (message : String) :
      (t.raiseAlert key message now).modifyJob id f =
        (t.modifyJob id f).raiseAlert key message now :=
    apply_ite (modifyJob · id f) _ _ _
  unfold withFailure
  dsimp only
  rw [apply_ite (modifyJob · id f), hraise, hput]
  rfl

/-- A failed attempt writes the due time of its job nowhere else. -/
theorem withDue_withFailedAttempt (t : Tables) (policy : BreakerPolicy) (job : Job)
    (result : ExecutionResult) (startedAt finishedAt : Instant) (next next' due : Instant) :
    (t.withFailedAttempt policy job next result startedAt finishedAt).withDue job.id due =
      (t.withFailedAttempt policy job next' result startedAt finishedAt).withDue job.id due := by
  let row (next : Instant) : Tables :=
    t.modifyJob job.id (job.afterFailure next (result.errorSummary.getD "") finishedAt)
  have hrow (next : Instant) : (row next).withDue job.id due =
      t.modifyJob job.id ((fun row => { row with nextRunAt := due }) ∘
        job.afterFailure next (result.errorSummary.getD "") finishedAt) :=
    modifyJob_modifyJob t job.id fun _ => rfl
  have hfailed (next : Instant) :
      (t.withFailedAttempt policy job next result startedAt finishedAt).withDue job.id due =
        (((row next).withDue job.id due).appendLog
          (job.attempt result startedAt finishedAt)).withFailure policy job.key job.nextRetryCount
            finishedAt :=
    (withFailure_modifyJob ..).symm
  rw [hfailed, hfailed, hrow, hrow]
  rfl

end Tables

namespace Queue

variable {q : Queue σ} {job : Job} {result : ExecutionResult} {startedAt finishedAt : Instant}
  {w u w' : World σ} {e : QueueError} {n left : Nat}

/-! ## One try -/

/-- The transaction of one try to finalize an attempt. -/
def commitAttempt (q : Queue σ) (job : Job) (result : ExecutionResult)
    (startedAt finishedAt : Instant) : QueueM σ Unit :=
  if result.isFailure then q.commitFailure job result startedAt finishedAt
  else q.commitSuccess job result startedAt finishedAt

/-- What follows the transaction. -/
def reportAttempt (q : Queue σ) (job : Job) (result : ExecutionResult) : QueueM σ JobStatus :=
  if result.isFailure then do
    log .jobFailed
    reportFailed job
    return job.nextStatus
  else do
    log .jobCompleted
    emit (.status .completed job.key.connector)
    recover q.refreshDepth fun _ => log .depthUnknown
    return .completed

theorem finalizeOnce_eq (q : Queue σ) (job : Job) (result : ExecutionResult)
    (startedAt finishedAt : Instant) :
    q.finalizeOnce job result startedAt finishedAt = (do
      q.commitAttempt job result startedAt finishedAt
      q.reportAttempt job result) := by
  unfold finalizeOnce commitAttempt reportAttempt finalizeFailure finalizeSuccess
  split <;> rfl

/-- What follows the transaction cannot fail. -/
theorem reportAttempt_meets (q : Queue σ) (job : Job) (result : ExecutionResult) (w : World σ) :
    Meets (q.reportAttempt job result) w (fun _ _ => True) fun _ _ => False := by
  unfold reportAttempt
  split
  · refine Meets.log_bind fun w₁ _ => ?_
    exact (reportFailed_meets job w₁).bind_total fun _ _ _ => trivial
  · refine Meets.log_bind fun w₁ _ => Meets.emit_bind fun w₂ _ => ?_
    exact (q.refreshDepth_meets w₂).bind_total fun _ _ _ => trivial

/-- A try that commits finds the row of its job, and can count its failure. -/
theorem commitAttempt_meets (q : Queue σ) (job : Job) (result : ExecutionResult)
    (startedAt finishedAt : Instant) (w : World σ) :
    Meets (q.commitAttempt job result startedAt finishedAt) w
      (fun _ _ => (w.tables.job? job.id).isSome ∧
        (result.isFailure → CanCount w.tables job.key finishedAt))
      fun _ w' => w.Stays w' := by
  unfold commitAttempt
  cases hresult : result.isFailure with
  | true =>
    exact (q.commitFailure_meets job result startedAt finishedAt w).mono
      (fun _ _ h => ⟨h.1.1, fun _ => h.1.2⟩) fun _ _ h => h.1
  | false =>
    exact (q.commitSuccess_meets job result startedAt finishedAt w).mono
      (fun _ _ h => ⟨h.1, by simp⟩) fun _ _ h => h.1

theorem exists_finalizeOnce_ok_iff :
    (∃ status w', q.finalizeOnce job result startedAt finishedAt w = .ok status w') ↔
      ∃ w', q.commitAttempt job result startedAt finishedAt w = .ok () w' := by
  rw [finalizeOnce_eq, bind_apply]
  cases q.commitAttempt job result startedAt finishedAt w with
  | ok _ w₁ =>
    obtain ⟨status, w₂, hreport, -⟩ := (q.reportAttempt_meets job result w₁).exists_ok
    exact iff_of_true ⟨status, w₂, hreport⟩ ⟨w₁, rfl⟩
  | error e w₁ => simp

theorem finalizeOnce_error_iff :
    q.finalizeOnce job result startedAt finishedAt w = .error e w' ↔
      q.commitAttempt job result startedAt finishedAt w = .error e w' := by
  rw [finalizeOnce_eq, bind_apply]
  cases q.commitAttempt job result startedAt finishedAt w with
  | ok _ w₁ =>
    obtain ⟨status, w₂, hreport, -⟩ := (q.reportAttempt_meets job result w₁).exists_ok
    simp [hreport]
  | error e w₁ => simp

/-! ## One try after another -/

/-- So many tries to finalize an attempt fail with errors that may pass, one after the other. The
next one starts in the last world. -/
inductive Retried (q : Queue σ) (job : Job) (result : ExecutionResult)
    (startedAt finishedAt : Instant) : Nat → World σ → World σ → Prop where
  | start (v : World σ) : Retried q job result startedAt finishedAt 0 v v
  | again {n : Nat} {w w₁ u : World σ} {e : QueueError}
      (hfails : q.commitAttempt job result startedAt finishedAt w = .error e w₁)
      (hpasses : e.isTransient = true)
      (h : Retried q job result startedAt finishedAt n (w₁.logged .finalizeRepeated) u) :
      Retried q job result startedAt finishedAt (n + 1) w u

/-- The try at a world is the last one: it commits, or its error does not pass, or no try is
left. -/
def IsLast (q : Queue σ) (job : Job) (result : ExecutionResult) (startedAt finishedAt : Instant)
    (left : Nat) (w : World σ) : Prop :=
  ∀ e w', q.commitAttempt job result startedAt finishedAt w = .error e w' →
    e.isTransient = true → left = 0

/-- Tries that fail leave no change. -/
theorem Retried.stays (h : q.Retried job result startedAt finishedAt n w u) : w.Stays u := by
  induction h with
  | start w => exact .refl w
  | @again n w w₁ u e hfails _ _ ih =>
    have hw₁ := (q.commitAttempt_meets job result startedAt finishedAt w).error_of_eq hfails
    exact (hw₁.trans_stays (w₁.stays_logged _)).trans_stays ih

/-- **Finalizing an attempt** is its last try. -/
theorem finalize_of_isLast (h : q.Retried job result startedAt finishedAt n w u)
    (hlast : q.IsLast job result startedAt finishedAt left u) :
    q.finalize job result startedAt finishedAt (n + left) w =
      q.finalizeOnce job result startedAt finishedAt u := by
  induction h with
  | start w =>
    rw [Nat.zero_add]
    cases left with
    | zero => rfl
    | succ left =>
      rw [finalize, recover_apply]
      cases hrun : q.finalizeOnce job result startedAt finishedAt w with
      | ok status w' => rfl
      | error e w' =>
        have hgone : e.isTransient ≠ true := fun hpasses =>
          Nat.succ_ne_zero left (hlast e w' (finalizeOnce_error_iff.1 hrun) hpasses)
        simp only [if_neg hgone, throw_apply]
  | @again n w w₁ u e hfails hpasses _ ih =>
    have hrun : q.finalizeOnce job result startedAt finishedAt w = .error e w₁ :=
      finalizeOnce_error_iff.2 hfails
    rw [show n + 1 + left = (n + left) + 1 by omega, finalize, recover_apply, hrun]
    simp only [hpasses, if_true, bind_apply, log_apply]
    exact ih hlast

/-- Some try is the last one. -/
theorem exists_isLast (q : Queue σ) (job : Job) (result : ExecutionResult)
    (startedAt finishedAt : Instant) (retries : Nat) (w : World σ) :
    ∃ n left u, n + left = retries ∧ q.Retried job result startedAt finishedAt n w u ∧
      q.IsLast job result startedAt finishedAt left u := by
  induction retries generalizing w with
  | zero => exact ⟨0, 0, w, rfl, .start w, fun _ _ _ _ => rfl⟩
  | succ retries ih =>
    by_cases hagain : ∃ e w₁, q.commitAttempt job result startedAt finishedAt w = .error e w₁ ∧
        e.isTransient = true
    · obtain ⟨e, w₁, hfails, hpasses⟩ := hagain
      obtain ⟨n, left, u, hn, hretried, hlast⟩ := ih (w₁.logged .finalizeRepeated)
      exact ⟨n + 1, left, u, by omega, .again hfails hpasses hretried, hlast⟩
    · exact ⟨0, retries + 1, w, by omega, .start w,
        fun e w₁ hfails hpasses => absurd ⟨e, w₁, hfails, hpasses⟩ hagain⟩

/-- **Finalizing an attempt** is up to two tries that fail with errors that may pass, and the last
try. -/
theorem exists_last_try (q : Queue σ) (job : Job) (result : ExecutionResult)
    (startedAt finishedAt : Instant) (w : World σ) :
    ∃ n left u, n + left = finalizeRetries ∧
      q.Retried job result startedAt finishedAt n w u ∧
      q.IsLast job result startedAt finishedAt left u ∧
      q.finalize job result startedAt finishedAt finalizeRetries w =
        q.finalizeOnce job result startedAt finishedAt u := by
  obtain ⟨n, left, u, hn, hretried, hlast⟩ :=
    q.exists_isLast job result startedAt finishedAt finalizeRetries w
  exact ⟨n, left, u, hn, hretried, hlast, hn ▸ finalize_of_isLast hretried hlast⟩

/-- Finalizing succeeds if one of the first three tries commits and those before it may be
repeated. -/
theorem exists_finalize_ok_iff :
    (∃ status w', q.finalize job result startedAt finishedAt finalizeRetries w = .ok status w') ↔
      ∃ n < 3, ∃ u w', q.Retried job result startedAt finishedAt n w u ∧
        q.commitAttempt job result startedAt finishedAt u = .ok () w' := by
  constructor
  · rintro ⟨status, w', hrun⟩
    obtain ⟨n, left, u, hn, hretried, -, hfinal⟩ :=
      q.exists_last_try job result startedAt finishedAt w
    obtain ⟨w₁, hcommits⟩ := exists_finalizeOnce_ok_iff.1 ⟨status, w', hfinal ▸ hrun⟩
    exact ⟨n, Nat.lt_succ_of_le (Nat.le.intro hn), u, w₁, hretried, hcommits⟩
  · rintro ⟨n, hn, u, w', hretried, hcommits⟩
    obtain ⟨left, hleft⟩ := Nat.exists_eq_add_of_le (Nat.le_of_lt_succ hn)
    have hlast : q.IsLast job result startedAt finishedAt left u := by
      intro e w₁ hfails
      rw [hcommits] at hfails
      cases hfails
    obtain ⟨status, w₁, hrun⟩ := exists_finalizeOnce_ok_iff.2 ⟨w', hcommits⟩
    refine ⟨status, w₁, ?_⟩
    rw [finalizeRetries, hleft, finalize_of_isLast hretried hlast, hrun]

/-- Finalizing fails with the error of a try that is the third one or whose error does not pass. -/
theorem exists_finalize_error_iff :
    (∃ w', q.finalize job result startedAt finishedAt finalizeRetries w = .error e w') ↔
      ∃ n < 3, ∃ u w', q.Retried job result startedAt finishedAt n w u ∧
        q.commitAttempt job result startedAt finishedAt u = .error e w' ∧
        (e.isTransient = true → n = 2) := by
  constructor
  · rintro ⟨w', hrun⟩
    obtain ⟨n, left, u, hn, hretried, hlast, hfinal⟩ :=
      q.exists_last_try job result startedAt finishedAt w
    have hfails := finalizeOnce_error_iff.1 (hfinal ▸ hrun)
    refine ⟨n, Nat.lt_succ_of_le (Nat.le.intro hn), u, w', hretried, hfails, fun hpasses => ?_⟩
    rw [hlast e w' hfails hpasses] at hn
    exact hn
  · rintro ⟨n, hn, u, w', hretried, hfails, hthird⟩
    obtain ⟨left, hleft⟩ := Nat.exists_eq_add_of_le (Nat.le_of_lt_succ hn)
    have hlast : q.IsLast job result startedAt finishedAt left u := by
      intro e' w₁ hfails' hpasses
      rw [hfails] at hfails'
      cases hfails'
      have := hthird hpasses
      omega
    refine ⟨w', ?_⟩
    rw [finalizeRetries, hleft, finalize_of_isLast hretried hlast]
    exact finalizeOnce_error_iff.2 hfails

/-! ## What a try leaves that commits -/

/-- The tables after an attempt has been finalized with a random word for the delay. -/
def finalizedTables (q : Queue σ) (job : Job) (result : ExecutionResult)
    (startedAt finishedAt : Instant) (t : Tables) (word : Nat) : Tables :=
  if result.isFailure then
    t.withFailedAttempt q.breaker job (q.dueAfter job finishedAt word) result startedAt finishedAt
  else t.withCompletion job result startedAt finishedAt

/-- Without chance the due time after a failed attempt depends on no random word. -/
theorem dueAfter_of_steady (hsteady : q.backoff.usesChance = false) (job : Job) (now : Instant)
    (word word' : Nat) : q.dueAfter job now word = q.dueAfter job now word' := by
  have hdelay (n : Nat) : q.backoff.delayMillis n word = q.backoff.delayMillis n word' := by
    simp only [Backoff.delayMillis, hsteady, Bool.false_eq_true, if_false]
  simp only [dueAfter, Backoff.nextRunAt, hdelay]

/-- The second world is what a try leaves that commits, with some random word. -/
structure IsFinalized (q : Queue σ) (job : Job) (result : ExecutionResult)
    (startedAt finishedAt : Instant) (w w' : World σ) : Prop where
  tables : ∃ word, w'.tables = q.finalizedTables job result startedAt finishedAt w.tables word
  events : w'.events.filter (!·.isDepth) = job.reports result ++ w.events.filter (!·.isDepth)

/-- **A try that commits** leaves the same, whatever was tried before, but for the random word. -/
theorem Finalizes.closed {status : JobStatus}
    (h : q.Finalizes job result startedAt finishedAt w status w') :
    status = job.statusAfter result ∧ q.IsFinalized job result startedAt finishedAt w w' := by
  cases h with
  | success hresult noise hnoise hw =>
    refine ⟨by simp [Job.statusAfter, hresult], ⟨0, by simp [finalizedTables, hresult, hw.tables]⟩,
      ?_⟩
    have hquiet : noise.filter (!·.isDepth) = [] :=
      List.filter_eq_nil_iff.2 fun e he => by simp [hnoise e he]
    rw [hw.events, List.filter_append, hquiet, Job.reports_of_success hresult]
    rfl
  | failure hresult n hw =>
    refine ⟨by simp [Job.statusAfter, hresult], ⟨q.word n, ?_⟩, ?_⟩
    · rw [hw.tables, finalizedTables, if_pos hresult]
    · rw [hw.events, List.filter_append, ← Job.reports_of_failure hresult,
        Job.filter_isDepth_reports]

namespace IsFinalized

variable {w₁ w₂ : World σ} (h : q.IsFinalized job result startedAt finishedAt w w₁)
  (h' : q.IsFinalized job result startedAt finishedAt w w₂)

include h

/-- Finalizing adds one row to the log. -/
theorem logs : w₁.tables.logs = w.tables.logs ++ [job.attempt result startedAt finishedAt] := by
  obtain ⟨word, htables⟩ := h.tables
  rw [htables, finalizedTables]
  split
  · exact Tables.logs_withFailure ..
  · rfl

/-- Finalizing counts a failure once. -/
theorem failureCount (hresult : result.isFailure = true) :
    w₁.tables.failureCount job.key =
      Breaker.reconcile (w.tables.failureCount job.key + 1) job.nextRetryCount := by
  obtain ⟨word, htables⟩ := h.tables
  rw [htables, finalizedTables, if_pos hresult, Tables.withFailedAttempt]
  have hstat {t : Tables} (ht : t.stats = w.tables.stats) :
      (t.withFailure q.breaker job.key job.nextRetryCount finishedAt).stat? job.key =
        some (w.tables.statAfterFailure q.breaker job.key job.nextRetryCount finishedAt) := by
    rw [Tables.stat?_withFailure_of_stats ht, if_pos rfl]
  exact Tables.failureCount_afterFailure (hstat rfl)

/-- Finalizing tells one state. -/
theorem countP_isStatus :
    w₁.events.countP Event.isStatus = w.events.countP Event.isStatus + 1 := by
  rw [← Event.countP_isStatus_filter, h.events, List.countP_append, job.countP_isStatus_reports,
    Event.countP_isStatus_filter, Nat.add_comm]

/-- What a consumer does after finalizing is not part of what it leaves. -/
theorem processed (consumer : Nat) (v : World σ) :
    q.IsFinalized job result startedAt finishedAt w (processed consumer v w₁) :=
  ⟨h.tables, h.events⟩

include h'

/-- The random word moves only the due time of the job. -/
theorem withDue_eq (due : Instant) :
    w₁.tables.withDue job.id due = w₂.tables.withDue job.id due := by
  obtain ⟨word, htables⟩ := h.tables
  obtain ⟨word', htables'⟩ := h'.tables
  rw [htables, htables', finalizedTables, finalizedTables]
  split
  · exact Tables.withDue_withFailedAttempt ..
  · rfl

/-- Without chance the random word moves nothing. -/
theorem tables_eq (hsteady : q.backoff.usesChance = false) : w₁.tables = w₂.tables := by
  obtain ⟨word, htables⟩ := h.tables
  obtain ⟨word', htables'⟩ := h'.tables
  rw [htables, htables', finalizedTables, dueAfter_of_steady hsteady job finishedAt word word']
  rfl

end IsFinalized

/-! ## Attempts -/

/-- The same queue on a store that refuses nothing. -/
def unfailing (q : Queue σ) : Queue σ := { q with faults := fun _ _ => none }

theorem not_isFallible_unfailing (q : Queue σ) : ¬q.unfailing.IsFallible := by
  rintro ⟨w, s, h⟩
  exact h rfl

/-- Where some try commits, the first one commits on a store that refuses nothing. -/
theorem exists_unfailing_ok (hstays : w.Stays u)
    (hcommits : q.commitAttempt job result startedAt finishedAt u = .ok () w') :
    ∃ status v, q.unfailing.finalizeOnce job result startedAt finishedAt w = .ok status v ∧
      q.unfailing.Finalizes job result startedAt finishedAt w status v := by
  obtain ⟨hrow, hcan⟩ :=
    (q.commitAttempt_meets job result startedAt finishedAt u).ok_of_eq hcommits
  rw [hstays.tables] at hrow hcan
  exact finalizeOnce_finalizes q.not_isFallible_unfailing startedAt hrow hcan

/-- Finalizing that succeeds leaves what it leaves on a store that refuses nothing, where the first
try commits, but for the random word. -/
theorem finalize_unfailing {status : JobStatus}
    (hrun : q.finalize job result startedAt finishedAt finalizeRetries w = .ok status w') :
    ∃ first v, q.unfailing.commitAttempt job result startedAt finishedAt w = .ok () first ∧
      q.unfailing.finalize job result startedAt finishedAt finalizeRetries w = .ok status v ∧
      q.IsFinalized job result startedAt finishedAt w w' ∧
      q.IsFinalized job result startedAt finishedAt w v := by
  obtain ⟨n, left, u, -, hretried, -, hfinal⟩ := q.exists_last_try job result startedAt finishedAt w
  have hstays := hretried.stays
  rw [hfinal] at hrun
  obtain ⟨w₁, hcommits⟩ := exists_finalizeOnce_ok_iff.1 ⟨status, w', hrun⟩
  obtain ⟨status', v, hfirst, hfinalizes⟩ := exists_unfailing_ok hstays hcommits
  obtain ⟨rfl, htables, hevents⟩ :=
    ((q.finalizeOnce_meets job result startedAt finishedAt u).ok_of_eq hrun).closed
  obtain ⟨rfl, hfinalized⟩ := hfinalizes.closed
  obtain ⟨first, hcommits'⟩ := exists_finalizeOnce_ok_iff.1 ⟨_, v, hfirst⟩
  rw [hstays.tables] at htables
  rw [hstays.events] at hevents
  refine ⟨first, v, hcommits', ?_, ⟨htables, hevents⟩, hfinalized.tables, hfinalized.events⟩
  have hlast : q.unfailing.IsLast job result startedAt finishedAt finalizeRetries w := by
    intro e w₂ hfails
    rw [hcommits'] at hfails
    cases hfails
  rw [← hfirst, ← finalize_of_isLast (.start w) hlast, Nat.zero_add]

/-- An attempt ends as finalizing it ends: with the same state, or with the same error. -/
theorem processJob_result {consumer : Nat} {executor : Executor σ} {v v₁ : World σ}
    (hexecute : execute executor job (processing consumer job v) = .ok result v₁) :
    match q.finalize job result v.now v₁.now finalizeRetries
      (v₁.emitted (.duration result.outcome)) with
    | .ok status w' =>
      q.processJob consumer executor job v = .ok status (processed consumer v w')
    | .error cause _ => ∃ w', q.processJob consumer executor job v = .error cause w' := by
  cases hrun : q.finalize job result v.now v₁.now finalizeRetries
      (v₁.emitted (.duration result.outcome)) with
  | ok status w' =>
    have hsettle : q.settle job result v.now v₁.now (v₁.emitted (.duration result.outcome)) =
        .ok status w' := by
      simp only [settle, recover_apply, hrun]
    exact by rw [processJob_eq hexecute, hsettle]
  | error cause w₁ =>
    obtain ⟨-, w', -, hrelease, -⟩ := q.release_returned job result cause v.now w₁
    have hsettle : q.settle job result v.now v₁.now (v₁.emitted (.duration result.outcome)) =
        .error cause w' := by
      simp only [settle, recover_apply, hrun, bind_apply, hrelease, throw_apply]
    exact ⟨_, processJob_error hexecute hsettle⟩

section Processed

variable {consumer : Nat} {executor : Executor σ} {v v₁ : World σ}
  (hexecute : execute executor job (processing consumer job v) = .ok result v₁)

include hexecute

theorem processJob_ok_iff {status : JobStatus} :
    q.processJob consumer executor job v = .ok status w' ↔
      ∃ w₁, q.finalize job result v.now v₁.now finalizeRetries
        (v₁.emitted (.duration result.outcome)) = .ok status w₁ ∧
        processed consumer v w₁ = w' := by
  have hresult := q.processJob_result hexecute
  cases hrun : q.finalize job result v.now v₁.now finalizeRetries
      (v₁.emitted (.duration result.outcome)) with
  | ok status' w₁ =>
    rw [hrun] at hresult
    simp [hresult]
  | error cause w₁ =>
    rw [hrun] at hresult
    obtain ⟨w₂, hprocess⟩ := hresult
    simp [hprocess]

theorem exists_processJob_error_iff :
    (∃ w', q.processJob consumer executor job v = .error e w') ↔
      ∃ w₁, q.finalize job result v.now v₁.now finalizeRetries
        (v₁.emitted (.duration result.outcome)) = .error e w₁ := by
  have hresult := q.processJob_result hexecute
  cases hrun : q.finalize job result v.now v₁.now finalizeRetries
      (v₁.emitted (.duration result.outcome)) with
  | ok status w₁ =>
    rw [hrun] at hresult
    simp [hresult]
  | error cause w₁ =>
    rw [hrun] at hresult
    obtain ⟨w₂, hprocess⟩ := hresult
    simp [hprocess]

end Processed

/-- **Finalizing again is not seen.** An attempt is finalized by its last try: up to two tries
before it failed with errors that may pass, and it commits, or its error does not pass, or it is the
third one. So

1. the attempt ends with a state exactly if one of the first three tries commits and all tries
   before it failed with errors that may pass,
2. it ends with an error exactly if that is the error of such a try, and it is the third one or the
   error does not pass,
3. if it ends with a state, then that state, the tables and all events but measures of the depth are
   those of an attempt whose first try commits, but for the due time of the job, which is the same
   where chance does not move the delays; there is one more log row, one more failure of the key if
   the attempt failed, and one more event that tells a state. -/
theorem retries_transparent {consumer : Nat} {executor : Executor σ} {v v₁ : World σ}
    (hexecute : execute executor job (processing consumer job v) = .ok result v₁)
    (hw : w = v₁.emitted (.duration result.outcome)) :
    (∃ n left u, n + left = 2 ∧ q.Retried job result v.now v₁.now n w u ∧
      q.IsLast job result v.now v₁.now left u ∧
      q.finalize job result v.now v₁.now finalizeRetries w =
        q.finalizeOnce job result v.now v₁.now u) ∧
    ((∃ status w', q.processJob consumer executor job v = .ok status w') ↔
      ∃ n < 3, ∃ u w', q.Retried job result v.now v₁.now n w u ∧
        q.commitAttempt job result v.now v₁.now u = .ok () w') ∧
    (∀ cause, (∃ w', q.processJob consumer executor job v = .error cause w') ↔
      ∃ n < 3, ∃ u w', q.Retried job result v.now v₁.now n w u ∧
        q.commitAttempt job result v.now v₁.now u = .error cause w' ∧
        (cause.isTransient = true → n = 2)) ∧
    (∀ status w', q.processJob consumer executor job v = .ok status w' →
      ∃ first w'', q.unfailing.commitAttempt job result v.now v₁.now w = .ok () first ∧
        q.unfailing.processJob consumer executor job v = .ok status w'' ∧
        (∀ due, w'.tables.withDue job.id due = w''.tables.withDue job.id due) ∧
        (q.backoff.usesChance = false → w'.tables = w''.tables) ∧
        w'.events.filter (!·.isDepth) = w''.events.filter (!·.isDepth) ∧
        w'.tables.logs = w.tables.logs ++ [job.attempt result v.now v₁.now] ∧
        (result.isFailure = true → w'.tables.failureCount job.key =
          Breaker.reconcile (w.tables.failureCount job.key + 1) job.nextRetryCount) ∧
        w'.events.countP Event.isStatus = w.events.countP Event.isStatus + 1) := by
  subst hw
  refine ⟨q.exists_last_try job result v.now v₁.now _, ?_, fun cause => ?_, ?_⟩
  · rw [← exists_finalize_ok_iff]
    simp only [processJob_ok_iff hexecute]
    exact ⟨fun ⟨status, _, w₁, hrun, _⟩ => ⟨status, w₁, hrun⟩,
      fun ⟨status, w₁, hrun⟩ => ⟨status, _, w₁, hrun, rfl⟩⟩
  · rw [← exists_finalize_error_iff]
    exact exists_processJob_error_iff hexecute
  · intro status w' hprocess
    obtain ⟨w₁, hrun, rfl⟩ := (processJob_ok_iff hexecute).1 hprocess
    obtain ⟨first, w₂, hcommits, hfirst, hagain, honce⟩ := finalize_unfailing hrun
    have hprocess' := (processJob_ok_iff hexecute).2 ⟨w₂, hfirst, rfl⟩
    replace hagain := hagain.processed consumer v
    replace honce := honce.processed consumer v
    exact ⟨first, processed consumer v w₂, hcommits, hprocess', hagain.withDue_eq honce,
      hagain.tables_eq honce, hagain.events.trans honce.events.symm, hagain.logs,
      hagain.failureCount, hagain.countP_isStatus⟩

/-- The small queue on a store that is too busy for the first two commits. -/
def busy : Queue Unit :=
  { Queue.plain with
    faults w s :=
      if s.kind = .commit ∧ w.reported < 2 then some (.query (.coded 5 "database is locked"))
      else none }

/-- An executor that is late. -/
def late : Executor Unit := fun _ w => (.result (.failure 3 1 "late"), w)

/-- A failed attempt is finalized at the third try, with one log row and one failure of its key. -/
theorem retries_transparent_busy :
    ∃ status w', busy.processJob 0 late heldOnce
        (.initial ⟨9⟩ { Tables.empty with jobs := [heldOnce] } ()) = .ok status w' ∧
      w'.tables.logs.length = 1 ∧ w'.tables.failureCount heldOnce.key = 1 ∧
      w'.events.countP Event.isStatus = 1 := by
  have hexecute : execute late heldOnce (processing 0 heldOnce
      (.initial ⟨9⟩ { Tables.empty with jobs := [heldOnce] } ())) =
      .ok (.failure 3 1 "late") (processing 0 heldOnce
        (.initial ⟨9⟩ { Tables.empty with jobs := [heldOnce] } ())) := rfl
  obtain ⟨-, hends, -, hsame⟩ := retries_transparent (q := busy) hexecute rfl
  obtain ⟨status, w', hrun⟩ := hends.2 ⟨2, by decide, _, _,
    .again rfl (by decide) (.again rfl (by decide) (.start _)), rfl⟩
  obtain ⟨-, -, -, -, -, -, -, hlogs, hcount, hevents⟩ := hsame status w' hrun
  refine ⟨status, w', hrun, by rw [hlogs]; rfl, ?_, by rw [hevents]; rfl⟩
  rw [hcount rfl]
  rfl

end Queue

end SyncQueue
