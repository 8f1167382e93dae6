import SyncQueue.Proofs.ClaimOrder
import SyncQueue.Proofs.FailureCount
import SyncQueue.Proofs.Unfinalized

/-!
# One round of a tick

A tick claims a job, has it executed and finalizes the attempt, and begins again. On a store that
refuses nothing, with an executor that leaves the store alone, each round succeeds. It adds one
attempt to the log, leaves a job that is not due any more, counts its success or failure for the key
of the job, and leaves all other jobs and keys as they were.

* `Tables.Handles`: what a round makes of the tables.
* `Queue.processJob_finalizes`, `Queue.processJob_ok`: an attempt that can be finalized ends with
  the state of its job.
* `Queue.drain_none`, `Queue.drain_some`: a tick ends, or makes a round and goes on.
-/

namespace SyncQueue

open Time (Instant)

variable {σ : Type}

/-! ## What a round writes -/

/-- The state in which an attempt leaves its job. -/
def Job.statusAfter (job : Job) (result : ExecutionResult) : JobStatus :=
  if result.isFailure then job.nextStatus else .completed

namespace Tables

/-- The tables after a job has been claimed, executed and finalized at one time. -/
structure Handles (policy : BreakerPolicy) (now : Instant) (job : Job) (result : ExecutionResult)
    (t t' : Tables) : Prop where
  logs : t'.logs = t.logs ++ [job.attempt result now now]
  ids : t'.jobs.map (·.id) = t.jobs.map (·.id)
  row : ∃ row, t'.job? job.id = some row ∧ row.status = job.statusAfter result ∧
    row.isDue now = false
  others : ∀ id, id ≠ job.id → t'.job? id = t.job? id
  keys : (t.stats.map (·.key)).Nodup → (t'.stats.map (·.key)).Nodup
  success : result.isFailure = false → ∀ key, t'.stat? key =
    if key = job.key then (t.stat? job.key).map (·.afterSuccess now) else t.stat? key
  failure : result.isFailure = true → ∀ key, t'.stat? key =
    if key = job.key then some (t.statAfterFailure policy job.key job.nextRetryCount now)
    else t.stat? key

variable {t t' : Tables} {policy : BreakerPolicy} {now due : Instant} {job : Job}
  {result : ExecutionResult}

/-- The rows of jobs after one of them has been claimed and written again. -/
theorem rows_of_claimed (hrow : t.job? job.id = some job) {write : Job → Job}
    (hwrite : (t.withClaim job.id now).Rewrites job.id write t') :
    t'.jobs.map (·.id) = t.jobs.map (·.id) ∧ t'.job? job.id = some (write (job.claimed now)) ∧
      ∀ id, id ≠ job.id → t'.job? id = t.job? id := by
  have hclaim : t.Rewrites job.id (·.claimed now) (t.withClaim job.id now) := rewrites_withClaim rfl
  refine ⟨hwrite.ids.trans hclaim.ids, ?_, ?_⟩
  · rw [hwrite.job?_eq, if_pos rfl, hclaim.job?_self hrow, Option.map_some]
  · intro id hne
    rw [hwrite.job?_of_ne hne, hclaim.job?_of_ne hne]

theorem stat?_withSuccess_of_stats (h : t'.stats = t.stats) (key key' : SyncKey) :
    (t'.withSuccess key now).stat? key' =
      if key' = key then (t.stat? key).map (·.afterSuccess now) else t.stat? key' := by
  rw [stat?_withSuccess, stat?_congr h, stat?_congr h]

theorem stat?_withFailure_of_stats (h : t'.stats = t.stats) (n : Int) (key key' : SyncKey) :
    (t'.withFailure policy key n now).stat? key' =
      if key' = key then some (t.statAfterFailure policy key n now) else t.stat? key' := by
  rw [stat?_withFailure, statAfterFailure, statOrNew, stat?_congr h, stat?_congr h]
  rfl

/-- A round whose attempt succeeds. -/
theorem handles_success (hrow : t.job? job.id = some job) (hresult : result.isFailure = false) :
    t.Handles policy now job result
      ((t.withClaim job.id now).withCompletion (job.claimed now) result now now) := by
  have hwrite : (t.withClaim job.id now).Rewrites job.id (·.completed now)
      ((t.withClaim job.id now).withCompletion (job.claimed now) result now now) :=
    ⟨rfl, fun _ => rfl⟩
  obtain ⟨hids, hself, hothers⟩ := rows_of_claimed hrow hwrite
  refine ⟨rfl, hids, ⟨_, hself, ?_, rfl⟩, hothers, ?_, ?_, ?_⟩
  · rw [Job.statusAfter, hresult]
    rfl
  · intro hkeys
    have hsame : ((t.withClaim job.id now).withCompletion (job.claimed now) result now
        now).stats.map (·.key) = t.stats.map (·.key) := map_modifyFirst fun _ _ => rfl
    rwa [hsame]
  · intro _ key
    exact stat?_withSuccess_of_stats rfl job.key key
  · intro hfailure
    rw [hresult] at hfailure
    cases hfailure

/-- A round whose attempt fails; if the job is to be tried again, it is due later. -/
theorem handles_failure (hrow : t.job? job.id = some job) (hresult : result.isFailure)
    (hnow : now.hasFourDigitYear)
    (hdue : job.isLastAttempt = false → now < due ∧ due.hasFourDigitYear) :
    t.Handles policy now job result
      ((t.withClaim job.id now).withFailedAttempt policy (job.claimed now) due result now now) := by
  have hwrite : (t.withClaim job.id now).Rewrites job.id
      ((job.claimed now).afterFailure due (result.errorSummary.getD "") now)
      ((t.withClaim job.id now).withFailedAttempt policy (job.claimed now) due result now now) :=
    ⟨jobs_withFailure .., fun _ => rfl⟩
  obtain ⟨hids, hself, hothers⟩ := rows_of_claimed hrow hwrite
  refine ⟨logs_withFailure .., hids, ⟨_, hself, ?_, ?_⟩, hothers, ?_, ?_, ?_⟩
  · rw [Job.statusAfter, if_pos hresult]
    rfl
  · have hlast : (job.claimed now).isLastAttempt = job.isLastAttempt := rfl
    cases hretry : job.isLastAttempt with
    | true => simp [Job.isDue, Job.afterFailure, Job.nextStatus, hlast, hretry,
        JobStatus.isClaimable]
    | false =>
      obtain ⟨hlater, hyear⟩ := hdue hretry
      have hearly : ¬due ≤ now := Int.not_le.2 hlater
      simp [Job.isDue, Job.afterFailure, hlast, hretry,
        Instant.storedLe_of_fourDigits hyear hnow, hearly]
  · intro hkeys
    rw [withFailedAttempt, stats_withFailure]
    refine keys_putStat ?_ _
    exact hkeys
  · intro hsuccess
    rw [hresult] at hsuccess
    cases hsuccess
  · intro _ key
    exact stat?_withFailure_of_stats rfl job.nextRetryCount job.key key

namespace Handles

variable (h : t.Handles policy now job result t')

include h

/-- The rows of other jobs are those before the round. -/
theorem mem_iff_of_ne (hids : (t.jobs.map (·.id)).Nodup) {other : Job} (hne : other.id ≠ job.id) :
    other ∈ t'.jobs ↔ other ∈ t.jobs := by
  have hids' : (t'.jobs.map (·.id)).Nodup := h.ids ▸ hids
  constructor
  · intro hmem
    have hfound := job?_of_mem hids' hmem
    rw [h.others other.id hne] at hfound
    exact mem_of_job? hfound
  · intro hmem
    have hfound := job?_of_mem hids hmem
    rw [← h.others other.id hne] at hfound
    exact mem_of_job? hfound

/-- The job itself is not eligible after the round. -/
theorem not_isEligible (hids : (t.jobs.map (·.id)).Nodup) {other : Job} (hmem : other ∈ t'.jobs)
    (hid : other.id = job.id) : t'.isEligible now other = false := by
  have hids' : (t'.jobs.map (·.id)).Nodup := h.ids ▸ hids
  obtain ⟨row, hrow, -, hdue⟩ := h.row
  have hfound := job?_of_mem hids' hmem
  rw [hid, hrow] at hfound
  obtain rfl := Option.some.inj hfound
  rw [isEligible_eq, hdue, Bool.false_and]

theorem stat?_of_ne {key : SyncKey} (hne : key ≠ job.key) : t'.stat? key = t.stat? key := by
  cases hresult : result.isFailure with
  | true => rw [h.failure hresult, if_neg hne]
  | false => rw [h.success hresult, if_neg hne]

/-- The count of the key of the job. -/
theorem failureCount : t'.failureCount job.key =
    if result.isFailure then Breaker.reconcile (t.failureCount job.key + 1) job.nextRetryCount
    else 0 := by
  cases hresult : result.isFailure with
  | true =>
    have hstat := h.failure hresult job.key
    rw [if_pos rfl] at hstat
    exact failureCount_afterFailure hstat
  | false =>
    have hstat := h.success hresult job.key
    rw [if_pos rfl] at hstat
    exact failureCount_afterSuccess hstat

/-- **The key of the job**, if it was not paused, is paused exactly if this attempt failed and
brought its count to the threshold. -/
theorem isPaused (hlater : now < Breaker.pauseEnd policy now)
    (hfree : (t.stat? job.key).any (·.isPaused now) = false) :
    (t'.stat? job.key).any (·.isPaused now) =
      (result.isFailure && decide (policy.threshold ≤ t'.failureCount job.key)) := by
  cases hresult : result.isFailure with
  | true =>
    have hstat := h.failure hresult job.key
    rw [if_pos rfl] at hstat
    have hold : (t.statOrNew job.key now).isPaused now = false := by
      rw [statOrNew]
      cases hfound : t.stat? job.key with
      | none => rfl
      | some stat =>
        rw [hfound, Option.any_some] at hfree
        exact hfree
    have hnew := FailureStat.isPaused_afterFailure hlater hold job.nextRetryCount
    rw [Tables.failureCount, hstat, Option.any_some, statAfterFailure, hnew]
    rfl
  | false =>
    have hstat := h.success hresult job.key
    rw [if_pos rfl] at hstat
    rw [hstat]
    cases t.stat? job.key <;> rfl

theorem pausesDated (hkeys : (t.stats.map (·.key)).Nodup) (hdated : t.PausesDated)
    (hend : (Breaker.pauseEnd policy now).hasFourDigitYear) : t'.PausesDated := by
  intro stat hmem
  have hfound := stat?_of_mem (h.keys hkeys) hmem
  have hdated' : ∀ key stat, t.stat? key = some stat →
      stat.pausedUntil.all (·.hasFourDigitYear) = true :=
    fun key stat hstat => hdated stat (List.mem_of_find?_eq_some hstat)
  by_cases hkey : stat.key = job.key
  · cases hresult : result.isFailure with
    | true =>
      rw [h.failure hresult, if_pos hkey, Option.some.injEq] at hfound
      rw [← hfound, statAfterFailure, FailureStat.afterFailure]
      dsimp only
      split
      · exact hend
      · rw [statOrNew]
        cases hold : t.stat? job.key with
        | none => rfl
        | some old => exact hdated' _ old hold
    | false =>
      rw [h.success hresult, if_pos hkey] at hfound
      obtain ⟨old, -, rfl⟩ := Option.map_eq_some_iff.1 hfound
      rfl
  · rw [h.stat?_of_ne hkey] at hfound
    exact hdated' _ stat hfound

end Handles

end Tables

/-! ## Executors that leave the store alone -/

namespace Executor

/-- The executor leaves the tables and the clock alone, and does not stop the consumer. -/
structure IsDetached (executor : Executor σ) (consumer : Nat) : Prop where
  tables : ∀ job w, (executor job w).2.tables = w.tables
  now : ∀ job w, (executor job w).2.now = w.now
  active : ∀ job w, ((executor job w).2.flags consumer).active = (w.flags consumer).active

/-- What the executor answers to a job, at some world in which the row of the job is that job. -/
def Answers (executor : Executor σ) (now : Instant) (job : Job) (result : ExecutionResult) : Prop :=
  ∃ w, w.now = now ∧ w.tables.job? job.id = some job ∧ (executor job w).1.toResult = result

end Executor

/-- A queue whose store refuses nothing, with delays and pauses that have an effect at a time. -/
structure Queue.IsCalm (q : Queue σ) (now : Instant) : Prop where
  infallible : ¬q.IsFallible
  year : now.hasFourDigitYear
  threshold : q.breaker.threshold ≤ FailureStat.maxCount
  pause : 0 < q.breaker.pause.nanos ∧ (now.shifted q.breaker.pause).hasFourDigitYear
  delay : ∀ n word, 0 < q.backoff.delayMillis n word ∧
    (now.moved (q.backoff.delayMillis n word)).hasFourDigitYear

namespace Queue

variable {q : Queue σ} {executor : Executor σ} {consumer : Nat} {job : Job} {w : World σ}

theorem Finalizes.becomes {result : ExecutionResult} {startedAt finishedAt : Instant}
    {status : JobStatus} {w' : World σ}
    (h : q.Finalizes job result startedAt finishedAt w status w') :
    ∃ tables events, w.Becomes tables events w' := by
  cases h with
  | success _ _ _ hw | failure _ _ hw => exact ⟨_, _, hw⟩

theorem active_setInFlight (inFlight : Bool) (w : World σ) :
    ((setInFlight consumer inFlight w).flags consumer).active = (w.flags consumer).active := by
  rw [flags_setInFlight]

/-- An attempt is finalized at once on a store that refuses nothing, if the row of the job is there
and a failure of its key can be counted. -/
theorem finalizeOnce_finalizes (hq : ¬q.IsFallible) {result : ExecutionResult}
    (startedAt : Instant) {finishedAt : Instant} (hrow : (w.tables.job? job.id).isSome)
    (hcount : result.isFailure → CanCount w.tables job.key finishedAt) :
    ∃ status w', q.finalizeOnce job result startedAt finishedAt w = .ok status w' ∧
      q.Finalizes job result startedAt finishedAt w status w' := by
  refine Meets.exists_ok ((q.finalizeOnce_meets job result startedAt finishedAt w).mono
    (fun _ _ h => h) ?_)
  rintro e w' ⟨-, hfallible | hnone | ⟨hfailure, hfull⟩⟩
  · exact hq hfallible
  · rw [hnone] at hrow
    cases hrow
  · exact hfull (hcount hfailure)

/-- **An attempt** on a store that refuses nothing is finalized in the world that the executor
leaves, if the row of the job is there and a failure of its key can be counted. -/
theorem processJob_finalizes (hq : ¬q.IsFallible) (consumer : Nat) (executor : Executor σ)
    (job : Job) (w : World σ) {v : World σ} {result : ExecutionResult}
    (hv : (executor job (processing consumer job w)).2 = v)
    (hresult : (executor job (processing consumer job w)).1.toResult = result)
    (hrow : (v.tables.job? job.id).isSome)
    (hcount : result.isFailure → CanCount v.tables job.key v.now) :
    ∃ status before after, q.processJob consumer executor job w =
        .ok status (processed consumer w after) ∧
      v.Becomes v.tables (.duration result.outcome :: v.events) before ∧
      q.Finalizes job result w.now v.now before status after := by
  obtain ⟨_, v₁, hexecute, rfl, hv₁⟩ :=
    (execute_meets executor job (processing consumer job w)).exists_ok
  rw [hresult] at hexecute
  rw [hv] at hv₁
  have hbefore : v.Becomes v.tables (.duration result.outcome :: v.events)
      (v₁.emitted (.duration result.outcome)) := by
    have h := World.Becomes.trans hv₁ (v₁.becomes_emitted (.duration result.outcome))
    rwa [hv₁.tables, hv₁.events] at h
  rw [← hbefore.tables] at hrow hcount
  obtain ⟨status, after, hrun, hfinal⟩ := finalizeOnce_finalizes hq w.now hrow hcount
  have hsettle : q.settle job result w.now v₁.now (v₁.emitted (.duration result.outcome)) =
      .ok status after := by
    simp only [settle, recover_apply, finalizeRetries, finalize, hv₁.now, hrun]
  exact ⟨status, _, after, by rw [processJob_eq hexecute, hsettle], hbefore, hfinal⟩

/-- **An attempt** of a claimed job on a calm queue is finalized at the time of its start. -/
theorem processJob_ok (hq : q.IsCalm w.now) (hexecutor : executor.IsDetached consumer)
    (hrow : w.tables.job? job.id = some job) (hcount : CanCount w.tables job.key w.now) :
    ∃ result status before after w', executor.Answers w.now job result ∧
      q.processJob consumer executor job w = .ok status w' ∧
      before.tables = w.tables ∧ q.Finalizes job result w.now w.now before status after ∧
      w'.tables = after.tables ∧ w'.now = w.now ∧
      (w'.flags consumer).active = (w.flags consumer).active := by
  have htables : (executor job (processing consumer job w)).2.tables = w.tables :=
    hexecutor.tables _ _
  have hnow : (executor job (processing consumer job w)).2.now = w.now := hexecutor.now _ _
  obtain ⟨status, before, after, hrun, hbefore, hfinal⟩ :=
    processJob_finalizes hq.infallible consumer executor job w rfl rfl
      (by rw [htables, hrow]; rfl) fun _ => by rwa [htables, hnow]
  rw [hnow] at hfinal
  obtain ⟨_, _, hafter⟩ := hfinal.becomes
  refine ⟨_, status, before, after, processed consumer w after, ?_, hrun,
    hbefore.tables.trans htables, hfinal, rfl, ?_, ?_⟩
  · exact ⟨processing consumer job w, rfl, hrow, rfl⟩
  · exact hafter.now.trans (hbefore.now.trans hnow)
  · rw [processed, active_setInFlight, hafter.flags, ← active_setInFlight true w]
    exact (congrArg (fun flags => (flags consumer).active) hbefore.flags).trans
      (hexecutor.active _ _)

/-! ## Rounds -/

/-- The best job is claimed. -/
theorem claim_ok (hq : ¬q.IsFallible) (consumer : Nat) (hbest : w.tables.best? w.now = some job) :
    Meets q.claim (setInFlight consumer true w)
      (fun claimed w' => claimed = some (job.claimed w.now) ∧
        (setInFlight consumer true w).Becomes (w.tables.withClaim job.id w.now) w.events w')
      fun _ _ => False := by
  refine (q.claim_meets _).mono ?_ fun _ _ h => hq h.2
  rintro claimed w' (⟨-, hnone, -⟩ | ⟨other, rfl, hsome, hw'⟩)
  · have hsame : w.tables.best? w.now = none := hnone
    rw [hbest] at hsame
    cases hsame
  · have hsame : w.tables.best? w.now = some other := hsome
    rw [hbest] at hsame
    cases hsame
    exact ⟨rfl, hw'⟩

/-- A count that is not too large can be raised by one. -/
theorem canCount_of_lt {t : Tables} {key : SyncKey} (h : t.failureCount key < FailureStat.maxCount)
    (now : Instant) : CanCount t key now := by
  rw [← t.consecutiveFailures_statOrNew key now] at h
  exact decide_eq_true (Int.add_one_le_iff.2 h)

/-- **No job is eligible**: the tick ends. -/
theorem drain_none (hq : ¬q.IsFallible) (executor : Executor σ)
    (hactive : (w.flags consumer).active) (hbest : w.tables.best? w.now = none) (fuel n : Nat) :
    ∃ w', q.drain consumer executor (fuel + 1) n w = .ok (some n) w' ∧ w'.tables = w.tables := by
  have hclaim : Meets q.claim (setInFlight consumer true w)
      (fun claimed w' => claimed = none ∧ w'.tables = w.tables) fun _ _ => False := by
    refine (q.claim_meets _).mono ?_ fun _ _ h => hq h.2
    rintro claimed w' (⟨rfl, -, hw'⟩ | ⟨job, -, hsome, -⟩)
    · exact ⟨rfl, hw'.tables⟩
    · have hsame : w.tables.best? w.now = some job := hsome
      rw [hbest] at hsame
      cases hsame
  obtain ⟨claimed, w', hrun, rfl, htables⟩ := hclaim.exists_ok
  refine ⟨setInFlight consumer false w', ?_, htables⟩
  simp only [drain, bind_apply, get_apply, hactive, Bool.not_true, Bool.false_eq_true, if_false,
    modify_apply, finallyModify, hrun, pure_apply]

/-- **A round**: the best job is claimed, executed and finalized, and the tick goes on. -/
theorem drain_some (hq : q.IsCalm w.now) (hexecutor : executor.IsDetached consumer)
    (hactive : (w.flags consumer).active) (hbest : w.tables.best? w.now = some job)
    (hrow : w.tables.job? job.id = some job)
    (hcount : w.tables.failureCount job.key < FailureStat.maxCount) (fuel n : Nat) :
    ∃ result w', executor.Answers w.now (job.claimed w.now) result ∧
      q.drain consumer executor (fuel + 1) n w = q.drain consumer executor fuel (n + 1) w' ∧
      w.tables.Handles q.breaker w.now job result w'.tables ∧ w'.now = w.now ∧
      (w'.flags consumer).active := by
  obtain ⟨_, w₁, hclaimed, rfl, hw₁⟩ := (claim_ok hq.infallible consumer hbest).exists_ok
  have hnow₁ : w₁.now = w.now := hw₁.now
  have hrow₁ : w₁.tables.job? (job.claimed w.now).id = some (job.claimed w.now) := by
    rw [hw₁.tables, Tables.withClaim, Tables.job?_modifyJob fun _ => by rfl]
    simp only [Job.claimed, if_true, hrow, Option.map_some]
  have hcount₁ : CanCount w₁.tables (job.claimed w.now).key w₁.now := by
    rw [hw₁.tables]
    exact canCount_of_lt hcount w₁.now
  obtain ⟨result, status, before, after, w', hanswers, hprocess, hbefore, hfinal, htables, hnow',
    hactive'⟩ := processJob_ok (hnow₁ ▸ hq) hexecutor hrow₁ hcount₁
  rw [hnow₁] at hanswers hfinal
  refine ⟨result, setInFlight consumer false w', hanswers, ?_, ?_, hnow'.trans hnow₁, ?_⟩
  · simp only [drain, bind_apply, get_apply, hactive, Bool.not_true, Bool.false_eq_true, if_false,
      modify_apply, finallyModify, hclaimed, hprocess, pure_apply, if_true]
  · have htables' : (setInFlight consumer false w').tables = after.tables := htables
    rw [htables']
    cases hfinal with
    | success hresult _ _ hafter =>
      rw [hafter.tables, hbefore, hw₁.tables]
      exact Tables.handles_success hrow hresult
    | failure hresult m hafter =>
      rw [hafter.tables, hbefore, hw₁.tables]
      refine Tables.handles_failure hrow hresult hq.year fun hretry => ?_
      have hlast : (job.claimed w.now).isLastAttempt = false := hretry
      obtain ⟨hdelay, hyear⟩ := hq.delay (job.claimed w.now).delayAttempt (q.word m)
      rw [dueAfter, hlast, if_neg Bool.false_ne_true]
      exact Backoff.lt_nextRunAt hdelay hq.year hyear
  · rw [active_setInFlight, hactive', hw₁.flags, active_setInFlight, hactive]

end Queue

end SyncQueue
