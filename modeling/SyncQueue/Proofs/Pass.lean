import Mathlib.Logic.Function.Basic
import SyncQueue.Proofs.Processing

/-!
# One tick is one pass over the queue

A tick asks the store for the best job before every attempt. All the same it handles the jobs that
were eligible when it began, in their order, each of them once: while the clock stands, an attempt
can only shrink the set of eligible jobs. It makes its own job ineligible, and if it fails it may
pause the key of the job; a success resets a key that was not paused anyway.

* `Walk.pass`: a walk over a list of jobs that leaves out the keys whose failures reach the
  threshold on the way.
* `Walk.Matches`: what the walk knows of the tables, with the list of the jobs that are left.
* `Walk.Matches.handles`: one attempt, which keeps it.
* `Queue.drain_pass`: the loop of a tick.
* `Queue.tick_pass`: the whole tick.
-/

namespace SyncQueue

open Time (Instant)

variable {σ : Type}

/-! ## A walk over jobs -/

/-- What a walk over jobs keeps in mind: the counts of failures of the keys, and the keys whose
counts a failure on the way has brought to the threshold. -/
structure Walk where
  count : SyncKey → Int
  stopped : List SyncKey

namespace Walk

/-- Before the first job. -/
def start (t : Tables) : Walk := ⟨t.failureCount, []⟩

/-- The count of the key of a job after an attempt of the job. -/
def countAfter (s : Walk) (job : Job) (result : ExecutionResult) : Int :=
  if result.isFailure then Breaker.reconcile (s.count job.key + 1) job.nextRetryCount else 0

/-- After an attempt of a job. -/
def after (policy : BreakerPolicy) (s : Walk) (job : Job) (result : ExecutionResult) : Walk where
  count := Function.update s.count job.key (s.countAfter job result)
  stopped :=
    if result.isFailure ∧ policy.threshold ≤ s.countAfter job result then job.key :: s.stopped
    else s.stopped

/-- The jobs that a walk handles, when their attempts have the given results. -/
def pass (policy : BreakerPolicy) (results : Job → ExecutionResult) : Walk → List Job → List Job
  | _, [] => []
  | s, job :: queue =>
    if job.key ∈ s.stopped then pass policy results s queue
    else job :: pass policy results (s.after policy job (results job)) queue

variable {policy : BreakerPolicy} {results results' : Job → ExecutionResult} {s : Walk}
  {queue : List Job} {job : Job} {result : ExecutionResult} {t t' : Tables} {now : Instant}

theorem pass_sublist (policy : BreakerPolicy) (results : Job → ExecutionResult) (s : Walk)
    (queue : List Job) : (s.pass policy results queue).Sublist queue := by
  induction queue generalizing s with
  | nil => exact .slnil
  | cons job queue ih =>
    rw [pass]
    split
    · exact (ih s).cons job
    · exact (ih _).cons_cons job

theorem count_after_self :
    (s.after policy job result).count job.key = s.countAfter job result :=
  Function.update_self ..

theorem count_after_of_ne {key : SyncKey} (hne : key ≠ job.key) :
    (s.after policy job result).count key = s.count key :=
  Function.update_of_ne hne ..

theorem mem_stopped_after {key : SyncKey} :
    key ∈ (s.after policy job result).stopped ↔
      key ∈ s.stopped ∨
        key = job.key ∧ result.isFailure ∧ policy.threshold ≤ s.countAfter job result := by
  unfold after
  dsimp only
  split
  · rename_i hstops
    simp only [List.mem_cons, hstops, and_true, or_comm]
  · rename_i hgoes
    simp only [hgoes, and_false, or_false]

/-- A walk depends on the results of the jobs on its way only. -/
theorem pass_congr (h : ∀ job ∈ queue, results job = results' job) :
    s.pass policy results queue = s.pass policy results' queue := by
  induction queue generalizing s with
  | nil => rfl
  | cons job queue ih =>
    have hrest : ∀ job ∈ queue, results job = results' job :=
      fun other hother => h other (List.mem_cons_of_mem _ hother)
    rw [pass, pass, h job List.mem_cons_self, ih hrest, ih hrest]

/-! ## What a walk knows of the tables -/

/-- The jobs that are left on the way and whose keys have not been stopped are the eligible ones,
and the counts are those of the tables, as far as they are still needed. -/
structure Matches (s : Walk) (now : Instant) (queue : List Job) (t : Tables) : Prop where
  ids : (t.jobs.map (·.id)).Nodup
  keys : (t.stats.map (·.key)).Nodup
  dated : t.PausesDated
  counts : ∀ key ∉ s.stopped, t.failureCount key = s.count key
  small : ∀ key ∉ s.stopped, s.count key < FailureStat.maxCount
  eligible : ∀ job, job ∈ t.jobs ∧ t.isEligible now job ↔ job ∈ queue ∧ job.key ∉ s.stopped

namespace Matches

/-- A job whose key has been stopped is passed over. -/
theorem skip (h : s.Matches now (job :: queue) t) (hstopped : job.key ∈ s.stopped) :
    s.Matches now queue t := by
  refine ⟨h.ids, h.keys, h.dated, h.counts, h.small, fun other => ?_⟩
  rw [h.eligible other, List.mem_cons]
  constructor
  · rintro ⟨rfl | hmem, hkey⟩
    · exact absurd hstopped hkey
    · exact ⟨hmem, hkey⟩
  · rintro ⟨hmem, hkey⟩
    exact ⟨.inr hmem, hkey⟩

/-- The next job on the way is the best one. -/
theorem best? (h : s.Matches now (job :: queue) t) (hkey : job.key ∉ s.stopped)
    (hfirst : ∀ other ∈ queue,
      Tables.claimedBefore job other ∧ Tables.claimedBefore other job = false) :
    t.best? now = some job := by
  refine Tables.best?_of_first ((h.eligible job).2 ⟨List.mem_cons_self, hkey⟩) ?_
  intro other hmem heligible hne
  have hleft := ((h.eligible other).1 ⟨hmem, heligible⟩).1
  exact hfirst other ((List.mem_cons.1 hleft).resolve_left hne)

/-- At the end of the way no job is eligible. -/
theorem none_eligible (h : s.Matches now [] t) :
    ∀ job ∈ t.jobs, t.isEligible now job = false := by
  intro job hmem
  rw [← Bool.not_eq_true]
  intro heligible
  cases ((h.eligible job).1 ⟨hmem, heligible⟩).1

section Handles

variable (h : s.Matches now (job :: queue) t) (hkey : job.key ∉ s.stopped)
  (hhandles : t.Handles policy now job result t')

include h hkey hhandles

theorem failureCount_handles : t'.failureCount job.key = s.countAfter job result := by
  rw [hhandles.failureCount, countAfter, h.counts job.key hkey]

/-- An attempt pauses the key that the walk stops, and no other one. -/
theorem isPausedAt_handles (hnow : now.hasFourDigitYear)
    (hlater : now < Breaker.pauseEnd policy now)
    (hend : (Breaker.pauseEnd policy now).hasFourDigitYear) (key : SyncKey) :
    t'.isPausedAt key now ↔ t.isPausedAt key now ∨
      key = job.key ∧ result.isFailure ∧ policy.threshold ≤ s.countAfter job result := by
  obtain ⟨-, heligible⟩ := (h.eligible job).2 ⟨List.mem_cons_self, hkey⟩
  have hpaused := Tables.isPausedAt_eq h.keys h.dated hnow
  have hpaused' := Tables.isPausedAt_eq (hhandles.keys h.keys)
    (hhandles.pausesDated h.keys h.dated hend) hnow
  by_cases heq : key = job.key
  · subst heq
    have hfree : t.isPausedAt job.key now = false := by
      simp only [Tables.isEligible_eq, Bool.and_eq_true, Bool.not_eq_true'] at heligible
      exact heligible.2
    rw [hpaused', hhandles.isPaused hlater (hpaused job.key ▸ hfree), hfree,
      h.failureCount_handles hkey hhandles]
    simp
  · rw [hpaused', hhandles.stat?_of_ne heq, ← hpaused]
    simp [heq]

/-- The jobs that are eligible after an attempt are those that are left on the way. -/
theorem eligible_handles (hids : ((job :: queue).map (·.id)).Nodup)
    (hnow : now.hasFourDigitYear) (hlater : now < Breaker.pauseEnd policy now)
    (hend : (Breaker.pauseEnd policy now).hasFourDigitYear) (other : Job) :
    other ∈ t'.jobs ∧ t'.isEligible now other ↔
      other ∈ queue ∧ other.key ∉ (s.after policy job result).stopped := by
  have hqueue : other ∈ queue → other.id ≠ job.id := by
    intro hmem heq
    have hmem' := List.mem_map_of_mem (f := fun job : Job => job.id) hmem
    rw [heq] at hmem'
    exact (List.nodup_cons.1 hids).1 hmem'
  rw [mem_stopped_after, not_or]
  by_cases hid : other.id = job.id
  · constructor
    · rintro ⟨hmem, heligible⟩
      rw [hhandles.not_isEligible h.ids hmem hid] at heligible
      cases heligible
    · rintro ⟨hmem, -⟩
      exact absurd hid (hqueue hmem)
  · have hold := h.eligible other
    have hpaused := h.isPausedAt_handles hkey hhandles hnow hlater hend other.key
    have hne : other ≠ job := fun heq => hid (congrArg _ heq)
    rw [List.mem_cons] at hold
    rw [hhandles.mem_iff_of_ne h.ids hid]
    simp only [Tables.isEligible_eq, Bool.and_eq_true, Bool.not_eq_true', ← Bool.not_eq_true,
      hpaused] at hold ⊢
    constructor
    · rintro ⟨hmem, hdue, hfree⟩
      obtain ⟨hleft, hgoes⟩ := hold.1 ⟨hmem, hdue, fun hpause => hfree (.inl hpause)⟩
      exact ⟨hleft.resolve_left hne, hgoes, fun hstop => hfree (.inr hstop)⟩
    · rintro ⟨hmem, hgoes, hstop⟩
      obtain ⟨hmem', hdue, hfree⟩ := hold.2 ⟨.inr hmem, hgoes⟩
      exact ⟨hmem', hdue, fun hpause => hpause.elim hfree hstop⟩

/-- **An attempt** of the next job on the way. -/
theorem handles (hids : ((job :: queue).map (·.id)).Nodup) (hnow : now.hasFourDigitYear)
    (hthreshold : policy.threshold ≤ FailureStat.maxCount)
    (hlater : now < Breaker.pauseEnd policy now)
    (hend : (Breaker.pauseEnd policy now).hasFourDigitYear) :
    (s.after policy job result).Matches now queue t' := by
  refine ⟨hhandles.ids ▸ h.ids, hhandles.keys h.keys, hhandles.pausesDated h.keys h.dated hend,
    ?_, ?_, h.eligible_handles hkey hhandles hids hnow hlater hend⟩
  · intro key hfree
    rw [mem_stopped_after, not_or] at hfree
    by_cases heq : key = job.key
    · subst heq
      rw [h.failureCount_handles hkey hhandles, count_after_self]
    · rw [count_after_of_ne heq, ← h.counts key hfree.1]
      exact Tables.failureCount_congr (hhandles.stat?_of_ne heq)
  · intro key hfree
    rw [mem_stopped_after, not_or] at hfree
    by_cases heq : key = job.key
    · subst heq
      rw [count_after_self]
      cases hresult : result.isFailure with
      | true =>
        have hbelow : s.countAfter job result < policy.threshold :=
          Int.not_le.1 fun hreached => hfree.2 ⟨rfl, hresult, hreached⟩
        exact Int.lt_of_lt_of_le hbelow hthreshold
      | false =>
        rw [countAfter, hresult, if_neg Bool.false_ne_true]
        decide
    · rw [count_after_of_ne heq]
      exact h.small key hfree.1

end Handles

end Matches

end Walk

/-! ## The jobs that have been handled -/

/-- Jobs have been claimed, executed with the given results and finalized, one after the other and
all at one time. -/
structure Executor.Passes (executor : Executor σ) (now : Instant)
    (results : Job → ExecutionResult) (jobs : List Job) (t t' : Tables) : Prop where
  logs : t'.logs = t.logs ++ jobs.map fun job => job.attempt (results job) now now
  answers : ∀ job ∈ jobs, executor.Answers now (job.claimed now) (results job)
  handled : ∀ job ∈ jobs, ∃ row, t'.job? job.id = some row ∧
    row.status = job.statusAfter (results job)
  others : ∀ id ∉ jobs.map (·.id), t'.job? id = t.job? id

namespace Executor.Passes

variable {executor : Executor σ} {now : Instant} {results results' : Job → ExecutionResult}
  {jobs : List Job} {job : Job} {policy : BreakerPolicy} {t t' t'' : Tables}

theorem nil (h : t'.logs = t.logs) (hjobs : t'.jobs = t.jobs) :
    executor.Passes now results [] t t' where
  logs := by rw [h, List.map_nil, List.append_nil]
  answers _ hmem := by cases hmem
  handled _ hmem := by cases hmem
  others id _ := Tables.job?_congr hjobs id

theorem congr (h : executor.Passes now results jobs t t')
    (hresults : ∀ job ∈ jobs, results job = results' job) :
    executor.Passes now results' jobs t t' where
  logs := by
    rw [h.logs]
    exact congrArg _ (List.map_congr_left fun job hjob => by rw [hresults job hjob])
  answers job hjob := hresults job hjob ▸ h.answers job hjob
  handled job hjob := hresults job hjob ▸ h.handled job hjob
  others := h.others

/-- One round before others. -/
theorem cons (hround : t.Handles policy now job (results job) t')
    (hanswers : executor.Answers now (job.claimed now) (results job))
    (h : executor.Passes now results jobs t' t'') (hid : job.id ∉ jobs.map (·.id)) :
    executor.Passes now results (job :: jobs) t t'' := by
  refine ⟨?_, List.forall_mem_cons.2 ⟨hanswers, h.answers⟩,
    List.forall_mem_cons.2 ⟨?_, h.handled⟩, ?_⟩
  · rw [h.logs, hround.logs, List.map_cons, List.append_assoc, List.singleton_append]
  · obtain ⟨row, hrow, hstatus, -⟩ := hround.row
    exact ⟨row, (h.others job.id hid).trans hrow, hstatus⟩
  · intro id hnew
    rw [List.map_cons, List.mem_cons, not_or] at hnew
    rw [h.others id hnew.2, hround.others id hnew.1]

/-- One round before the rest of a walk: its result can be put together with the later ones, since
no job comes twice. -/
theorem pass_cons {s : Walk} {queue : List Job} {result : ExecutionResult}
    (hkey : job.key ∉ s.stopped) (hids : ((job :: queue).map (·.id)).Nodup)
    (hround : t.Handles policy now job result t')
    (hanswers : executor.Answers now (job.claimed now) result)
    (h : executor.Passes now results ((s.after policy job result).pass policy results queue)
      t' t'') :
    ∃ results', s.pass policy results' (job :: queue) =
        job :: (s.after policy job result).pass policy results queue ∧
      executor.Passes now results' (s.pass policy results' (job :: queue)) t t'' := by
  have hnew := (List.nodup_cons.1 hids).1
  set results' := Function.update results job result with hresults'
  have hself : results' job = result := Function.update_self ..
  have hagree : ∀ other ∈ queue, results other = results' other := by
    intro other hmem
    have hne : other ≠ job := fun heq => hnew (heq ▸ List.mem_map_of_mem hmem)
    exact (Function.update_of_ne hne ..).symm
  have hpass : s.pass policy results' (job :: queue) =
      job :: (s.after policy job result).pass policy results queue := by
    rw [Walk.pass, if_neg hkey, hself, Walk.pass_congr hagree]
  have hsublist := Walk.pass_sublist policy results (s.after policy job result) queue
  refine ⟨results', hpass, ?_⟩
  rw [hpass]
  refine .cons (hself ▸ hround) (hself ▸ hanswers)
    (h.congr fun other hmem => hagree other (hsublist.subset hmem)) ?_
  exact fun hmem => hnew ((hsublist.map _).subset hmem)

end Executor.Passes

/-! ## The loop -/

namespace Queue

variable {q : Queue σ} {executor : Executor σ} {consumer : Nat} {now : Instant}

/-- **The loop of a tick** handles the jobs of a walk over those that are left, and leaves no
eligible job. -/
theorem drain_pass (hq : q.IsCalm now) (hexecutor : executor.IsDetached consumer)
    {queue : List Job} {s : Walk} {w : World σ} {fuel n : Nat} (hnow : w.now = now)
    (hactive : (w.flags consumer).active) (hids : (queue.map (·.id)).Nodup)
    (hsorted : queue.Pairwise fun a b =>
      Tables.claimedBefore a b ∧ Tables.claimedBefore b a = false)
    (hmatches : s.Matches now queue w.tables) (hfuel : queue.length < fuel) :
    ∃ results w', q.drain consumer executor fuel n w =
        .ok (some (n + (s.pass q.breaker results queue).length)) w' ∧
      executor.Passes now results (s.pass q.breaker results queue) w.tables w'.tables ∧
      ∀ job ∈ w'.tables.jobs, w'.tables.isEligible now job = false := by
  have hpauseEnd := Breaker.pauseEnd_of_fourDigits hq.pause.2
  have hend : (Breaker.pauseEnd q.breaker now).hasFourDigitYear := hpauseEnd ▸ hq.pause.2
  have hlater := Breaker.lt_pauseEnd hq.pause.1 (Instant.lt_last hq.year)
  induction queue generalizing s w fuel n with
  | nil =>
    obtain ⟨fuel, rfl⟩ := Nat.exists_eq_add_one_of_ne_zero (Nat.ne_of_gt hfuel)
    have hnone := hmatches.none_eligible
    have hbest : w.tables.best? w.now = none := Tables.best?_eq_none.2 (hnow ▸ hnone)
    obtain ⟨w', hdrain, htables⟩ := drain_none hq.infallible executor hactive hbest fuel n
    refine ⟨fun _ => noopResult, w', hdrain, ?_, htables ▸ hnone⟩
    rw [htables]
    exact .nil rfl rfl
  | cons job queue ih =>
    have hids' := List.nodup_cons.1 hids
    have hsorted' := List.pairwise_cons.1 hsorted
    by_cases hkey : job.key ∈ s.stopped
    · have hfuel' : queue.length < fuel := Nat.lt_of_succ_lt hfuel
      simp only [Walk.pass, hkey, if_true]
      exact ih hnow hactive hids'.2 hsorted'.2 (hmatches.skip hkey) hfuel'
    · obtain ⟨fuel, rfl⟩ := Nat.exists_eq_add_one_of_ne_zero (Nat.ne_zero_of_lt hfuel)
      have hbest : w.tables.best? w.now = some job := hnow ▸ hmatches.best? hkey hsorted'.1
      have hrow := Tables.job?_of_mem hmatches.ids (Tables.mem_of_best? hbest).1
      have hcount : w.tables.failureCount job.key < FailureStat.maxCount := by
        rw [hmatches.counts job.key hkey]
        exact hmatches.small job.key hkey
      obtain ⟨result, w₁, hanswers, hround, hhandles, hnow₁, hactive₁⟩ :=
        drain_some (hnow ▸ hq) hexecutor hactive hbest hrow hcount fuel n
      rw [hnow] at hanswers hhandles hnow₁
      have hmatches₁ := hmatches.handles hkey hhandles hids hq.year hq.threshold hlater hend
      obtain ⟨results, w', hdrain, hpasses, hnone⟩ :=
        ih hnow₁ hactive₁ hids'.2 hsorted'.2 hmatches₁ (Nat.lt_of_succ_lt_succ hfuel)
      obtain ⟨results', hpass, hpasses'⟩ := hpasses.pass_cons hkey hids hhandles hanswers
      refine ⟨results', w', ?_, hpasses', hnone⟩
      rw [hround, hdrain, hpass, List.length_cons, Nat.add_assoc, Nat.add_comm 1]

end Queue

/-! ## The tick -/

namespace Tables

/-- A store whose rows can be told apart, with times in years of four digits and counts that can be
raised, and in which no two eligible jobs agree in priority and due time. -/
structure IsOrderly (t : Tables) (now : Instant) : Prop where
  ids : (t.jobs.map (·.id)).Nodup
  keys : (t.stats.map (·.key)).Nodup
  due : ∀ job ∈ t.jobs, job.nextRunAt.hasFourDigitYear
  pauses : t.PausesDated
  counts : ∀ stat ∈ t.stats, stat.consecutiveFailures < FailureStat.maxCount
  differ : (t.jobs.filter (t.isEligible now)).Pairwise Job.Differs

/-- The jobs of one walk over the queue, when their attempts have the given results. -/
def passAt (t : Tables) (policy : BreakerPolicy) (results : Job → ExecutionResult)
    (now : Instant) : List Job :=
  (Walk.start t).pass policy results (t.queueAt now)

variable {t : Tables} {now : Instant}

theorem IsOrderly.matches (h : t.IsOrderly now) :
    (Walk.start t).Matches now (t.queueAt now) t := by
  refine ⟨h.ids, h.keys, h.pauses, fun _ _ => rfl, ?_, ?_⟩
  · intro key _
    change t.failureCount key < FailureStat.maxCount
    unfold failureCount
    cases hstat : t.stat? key with
    | none => decide
    | some stat => exact h.counts stat (List.mem_of_find?_eq_some hstat)
  · intro job
    simp [mem_queueAt, Walk.start]

end Tables

namespace Queue

/-- The fuel of a tick is enough for one attempt of every claimable job. -/
theorem length_le_claimBudget (t : Tables) :
    (t.jobs.filter (·.status.isClaimable)).length ≤ claimBudget t := by
  unfold claimBudget
  induction t.jobs.filter (·.status.isClaimable) with
  | nil => exact Nat.le_refl 0
  | cons job jobs ih =>
    rw [List.length_cons, List.foldr_cons]
    omega

theorem length_queueAt_le (t : Tables) (now : Instant) :
    (t.queueAt now).length ≤ claimBudget t := by
  have hclaimable : ∀ job, t.isEligible now job → job.status.isClaimable := by
    intro job heligible
    simp only [Tables.isEligible, Bool.and_eq_true] at heligible
    exact heligible.1.1
  rw [Tables.queueAt, List.length_mergeSort]
  exact Nat.le_trans (List.monotone_filter_right _ hclaimable).length_le (length_le_claimBudget t)

variable {q : Queue σ} {executor : Executor σ} {consumer : Nat} {w : World σ}

/-- **One tick is one pass over the queue.** An active consumer that is not ticking, alone on an
orderly store that refuses nothing, with an executor that leaves the store alone, handles the jobs
of one walk over the eligible jobs, sorted by priority and due time: it leaves out a job when an
earlier failure on the way has brought the count of its key to the threshold. It answers with their
number. They are handled once each, all were eligible when the tick began, the rows of all other
jobs stay as they were, and in the end no job is eligible. -/
theorem tick_pass (horderly : w.tables.IsOrderly w.now) (hq : q.IsCalm w.now)
    (hexecutor : executor.IsDetached consumer) (hactive : (w.flags consumer).active)
    (hidle : (w.flags consumer).ticking = false) (patience : Nat) :
    ∃ results w',
      q.tick consumer executor patience w =
        .ok (some (w.tables.passAt q.breaker results w.now).length) w' ∧
      executor.Passes w.now results (w.tables.passAt q.breaker results w.now) w.tables w'.tables ∧
      ((w.tables.passAt q.breaker results w.now).map (·.id)).Nodup ∧
      (∀ job ∈ w.tables.passAt q.breaker results w.now,
        job ∈ w.tables.jobs ∧ w.tables.isEligible w.now job) ∧
      ∀ job ∈ w'.tables.jobs, w'.tables.isEligible w.now job = false := by
  set ticking := w.withFlags consumer fun f => { f with ticking := true } with hticking
  have hactive' : (ticking.flags consumer).active := by
    simpa [hticking, World.withFlags] using hactive
  have hids : ((w.tables.queueAt w.now).map (·.id)).Nodup := Tables.nodup_queueAt horderly.ids
  have hfuel := length_queueAt_le w.tables w.now
  obtain ⟨results, w', hdrain, hpasses, hnone⟩ :=
    drain_pass (w := ticking) hq hexecutor rfl hactive' hids
      (Tables.queueAt_pairwise horderly.due horderly.differ) horderly.matches
      (Nat.lt_succ_of_le (Nat.le_trans hfuel (Nat.le_add_right _ patience)))
  have hsublist := Walk.pass_sublist q.breaker results (.start w.tables) (w.tables.queueAt w.now)
  refine ⟨results, (w'.emitted .tick).withFlags consumer fun f => { f with ticking := false }, ?_,
    hpasses, hids.sublist (hsublist.map _),
    fun job hjob => Tables.mem_queueAt.1 (hsublist.subset hjob), hnone⟩
  rw [Nat.zero_add] at hdrain
  simp only [tick, bind_apply, get_apply, hactive, hidle, Bool.not_true, Bool.false_eq_true,
    if_false, modify_apply, finallyModify]
  rw [hdrain]
  rfl

/-! ## A crowded store -/

theorem isCalm_plain : Queue.plain.IsCalm ⟨0⟩ := by
  refine ⟨not_isFallible_plain, by decide, by decide, by decide +kernel, fun n word => ?_⟩
  have hmillis : Queue.plain.backoff.delayMillis n word = Queue.plain.backoff.cappedMillis n := rfl
  have hcap : Queue.plain.backoff.cap.millis = 60000 := by decide +kernel
  have hpositive : 0 < Queue.plain.backoff.cappedMillis n :=
    Backoff.cappedMillis_pos (hcap ▸ Nat.succ_pos _) n
  have hbound : Queue.plain.backoff.cappedMillis n ≤ 60000 :=
    Nat.le_trans (Nat.min_le_right _ _) (Nat.le_of_eq hcap)
  rw [hmillis]
  exact ⟨hpositive, Instant.moved_start hbound⟩

/-- A job that waits to be claimed. -/
def waiting (id connector : BitVec 128) (priority : Int) : Job :=
  { heldOnce with id := ⟨id⟩, key := ⟨⟨connector⟩, ⟨2⟩⟩, status := .pending, priority }

/-- Two jobs of one key and one of another key. -/
def crowded : World Unit :=
  .initial ⟨0⟩ { Tables.empty with jobs := [waiting 1 9 1, waiting 2 7 2, waiting 3 7 3] } ()

/-- An executor that fails for one key. -/
def choosy : Executor Unit := fun job w =>
  (if job.key = ⟨⟨7⟩, ⟨2⟩⟩ then .error "refused" else .result noopResult, w)

theorem isOrderly_crowded : crowded.tables.IsOrderly crowded.now where
  ids := by decide
  keys := .nil
  due := by decide
  pauses _ hmem := by cases hmem
  counts _ hmem := by cases hmem
  differ := by decide +kernel

/-- The first job of the one key fails, so the second one is left out. -/
theorem tick_pass_crowded :
    ∃ results w', Queue.plain.tick 0 choosy 0 crowded = .ok (some 2) w' ∧
      (crowded.tables.passAt ⟨1, .ofMillis 1000⟩ results ⟨0⟩).length = 2 ∧
      choosy.Passes ⟨0⟩ results (crowded.tables.passAt ⟨1, .ofMillis 1000⟩ results ⟨0⟩)
        crowded.tables w'.tables := by
  obtain ⟨results, w', hrun, hpasses, -⟩ := tick_pass isOrderly_crowded isCalm_plain
    (⟨fun _ _ => rfl, fun _ _ => rfl, fun _ _ => rfl⟩ : choosy.IsDetached 0) rfl rfl 0
  have hcount : ∀ n w', Queue.plain.tick 0 choosy 0 crowded = .ok n w' → n = some 2 := by
    intro n w' hrun
    have hvalue : (match Queue.plain.tick 0 choosy 0 crowded with
      | .ok n _ => n
      | .error _ _ => none) = some 2 := by decide +kernel
    rwa [hrun] at hvalue
  have htwo := hcount _ _ hrun
  exact ⟨results, w', htwo ▸ hrun, Option.some.inj htwo, hpasses⟩

end Queue

end SyncQueue
