import SyncQueue.Proofs.JobLife
import SyncQueue.Proofs.Ledger
import SyncQueue.Proofs.Pauses

/-!
# The count of failures as a function of the history

The count of failures of a key is kept by an increment and a comparison with the retry count of the
job that failed. Several jobs of a key take turns in this, each with its own retry count, so the
count may run ahead of the number of failures. It is determined by the history all the same: after
failures of jobs whose new retry counts are `r₁, …, rₙ`, counted from the last success of the key,
it is the largest of `n` and of all `rᵢ + n - i`.

* `Breaker.countAfter`: that number, and `Breaker.countAfter_append`: what one more failure makes of
  it.
* `Fleet.CountMoves`: a move leaves the count of a key alone, resets it, or counts a failure, and
  the history says which.
* `Fleet.failure_count`: the count of every key after every run.
-/

namespace SyncQueue

open Time (Instant)

variable {σ : Type}

/-! ## The closed form -/

namespace Breaker

/-- The count of a key after failures of jobs with the new retry counts `r₁, …, rₙ`, in this order:
the largest of `n` and of `rᵢ + n - i` for `i` from one to `n`. -/
def countAfter (rs : List Int) : Int :=
  ((rs.zipIdx 1).map fun (r, i) => r + rs.length - i).foldr max rs.length

/-- The largest of numbers that are all one greater, and of one more number. -/
theorem foldr_max_append (l : List Int) (m r : Int) :
    (l.map (· + 1) ++ [r]).foldr max (m + 1) = max (l.foldr max m + 1) r := by
  induction l with
  | nil =>
    simp only [List.map_nil, List.nil_append, List.foldr_cons, List.foldr_nil]
    omega
  | cons x l ih =>
    simp only [List.map_cons, List.cons_append, List.foldr_cons, ih]
    omega

/-- **One more failure** raises the count by one, and to the retry count of its job if that is
more. -/
theorem countAfter_append (rs : List Int) (r : Int) :
    countAfter (rs ++ [r]) = reconcile (countAfter rs + 1) r := by
  have hterms : ((rs ++ [r]).zipIdx 1).map (fun (x, i) => x + ((rs ++ [r]).length : Int) - i) =
      ((rs.zipIdx 1).map fun (x, i) => x + (rs.length : Int) - i).map (· + 1) ++ [r] := by
    rw [List.zipIdx_append, List.map_append, List.map_map]
    congr 1
    · apply List.map_congr_left
      rintro ⟨x, i⟩ -
      simp only [List.length_append, List.length_singleton, Function.comp_apply]
      omega
    · simp only [List.zipIdx_singleton, List.map_cons, List.map_nil, List.length_append,
        List.length_singleton, List.cons.injEq, and_true]
      omega
  have hlength : ((rs ++ [r]).length : Int) = rs.length + 1 := by simp
  rw [countAfter, hterms, hlength, foldr_max_append]
  rfl

theorem length_le_countAfter (rs : List Int) : (rs.length : Int) ≤ countAfter rs := by
  have hinit : ∀ (l : List Int) (m : Int), m ≤ l.foldr max m := by
    intro l m
    induction l with
    | nil => exact Int.le_refl m
    | cons x l ih => exact Int.le_trans ih (Int.le_max_right x _)
  exact hinit _ _

theorem le_countAfter_append (rs : List Int) (r : Int) : r ≤ countAfter (rs ++ [r]) := by
  rw [countAfter_append]
  exact Int.le_max_right _ r

end Breaker

namespace Tables

/-- The count of failures of a key; a key without a statistics row has none. -/
def failureCount (t : Tables) (key : SyncKey) : Int :=
  ((t.stat? key).map (·.consecutiveFailures)).getD 0

variable {t t' : Tables} {key : SyncKey}

theorem failureCount_congr (h : t'.stat? key = t.stat? key) :
    t'.failureCount key = t.failureCount key := by
  rw [failureCount, failureCount, h]

theorem consecutiveFailures_statOrNew (t : Tables) (key : SyncKey) (now : Instant) :
    (t.statOrNew key now).consecutiveFailures = t.failureCount key := by
  unfold statOrNew failureCount
  cases t.stat? key <;> rfl

/-- A failure of the key is counted. -/
theorem failureCount_afterFailure {policy : BreakerPolicy} {n : Int} {now : Instant}
    (h : t'.stat? key = some (t.statAfterFailure policy key n now)) :
    t'.failureCount key = Breaker.reconcile (t.failureCount key + 1) n := by
  rw [failureCount, h, ← t.consecutiveFailures_statOrNew key now]
  rfl

/-- A success of the key resets its count. -/
theorem failureCount_afterSuccess {now : Instant}
    (h : t'.stat? key = (t.stat? key).map (·.afterSuccess now)) : t'.failureCount key = 0 := by
  rw [failureCount, h]
  cases t.stat? key <;> rfl

end Tables

/-! ## Failures in the history -/

/-- The new retry count of a job of the key whose attempt was finalized as a failure. -/
def Deed.failure? (key : SyncKey) : Deed → Option Int
  | finalized job status _ =>
    if job.key = key ∧ status ≠ .completed then some job.nextRetryCount else none
  | _ => none

/-- The deed neither completes a job of the key nor is a failure of one. -/
def Deed.IsSilent (key : SyncKey) (d : Deed) : Prop :=
  d.completes key = false ∧ d.failure? key = none

theorem Deed.isSilent_of_not_isFinalized {d : Deed} (h : d.isFinalized = false) (key : SyncKey) :
    d.IsSilent key := by
  cases d with
  | finalized => cases h
  | scheduled | claimed | executed | returned => exact ⟨rfl, rfl⟩

/-- A failure completes no job. -/
theorem Deed.completes_finalized {status : JobStatus} (h : status ≠ .completed) (job : Job)
    (finishedAt : Instant) (key : SyncKey) :
    (Deed.finalized job status finishedAt).completes key = false := by
  cases status with
  | completed => exact absurd rfl h
  | pending | inProgress | retrying | failed => rfl

namespace Fleet

/-- The new retry counts of the jobs of the key whose attempts were finalized as failures since the
last one that was finalized as a success, in the order of the failures. -/
def failuresSince (f : Fleet σ) (key : SyncKey) : List Int :=
  ((f.history.takeWhile fun d => !d.completes key).filterMap (Deed.failure? key)).reverse

/-- A failure of the key is the last one since the last success. -/
theorem failuresSince_append {f g : Fleet σ} {key : SyncKey} {d : Deed} {r : Int}
    (hd : d.completes key = false ∧ d.failure? key = some r)
    (history : g.history = d :: f.history) :
    g.failuresSince key = f.failuresSince key ++ [r] := by
  rw [failuresSince, history, List.takeWhile_cons]
  simp [hd.1, hd.2, failuresSince]

/-- What a move does to the count of failures of a key. -/
inductive CountMoves (key : SyncKey) (f g : Fleet σ) : Prop where
  | rests (new : List Deed) (silent : ∀ d ∈ new, d.IsSilent key)
      (history : g.history = new ++ f.history)
      (count : g.world.tables.failureCount key = f.world.tables.failureCount key)
  | resets (d : Deed) (success : d.completes key) (history : g.history = d :: f.history)
      (count : g.world.tables.failureCount key = 0)
  | counts (d : Deed) (r : Int) (failure : d.completes key = false ∧ d.failure? key = some r)
      (history : g.history = d :: f.history)
      (count : g.world.tables.failureCount key =
        Breaker.reconcile (f.world.tables.failureCount key + 1) r)

namespace CountMoves

variable {key : SyncKey} {f g : Fleet σ}

/-- The move keeps the count that the history tells. -/
theorem failureCount (h : CountMoves key f g)
    (hf : f.world.tables.failureCount key = Breaker.countAfter (f.failuresSince key)) :
    g.world.tables.failureCount key = Breaker.countAfter (g.failuresSince key) := by
  cases h with
  | rests new silent history count =>
    have hskip : ∀ d ∈ new, (!d.completes key) = true := by
      intro d hd
      simp [(silent d hd).1]
    have hnone : new.filterMap (Deed.failure? key) = [] :=
      List.filterMap_eq_nil_iff.2 fun d hd => (silent d hd).2
    rw [count, hf, failuresSince, failuresSince, history, List.takeWhile_append_of_pos hskip,
      List.filterMap_append, hnone, List.nil_append]
  | resets d success history count =>
    rw [count, failuresSince, history, List.takeWhile_cons]
    simp [success, Breaker.countAfter]
  | counts d r failure history count =>
    rw [count, hf, failuresSince_append failure history, Breaker.countAfter_append]

end CountMoves

end Fleet

/-- A step of an attempt enters a success or a failure of the key in the history and counts it, or
does neither. -/
theorem AttemptStage.Steps.failureCount {q : Queue σ} {job : Job} {answer : Answer}
    {w w' : World σ} {stage stage' : AttemptStage} (h : Steps q job answer w stage stage' w')
    (key : SyncKey) :
    ((∀ d ∈ Fleet.attemptDeeds job stage stage', d.IsSilent key) ∧
        w'.tables.failureCount key = w.tables.failureCount key) ∨
      (∃ d, Fleet.attemptDeeds job stage stage' = [d] ∧ d.completes key = true ∧
        w'.tables.failureCount key = 0) ∨
      ∃ d r, Fleet.attemptDeeds job stage stage' = [d] ∧
        (d.completes key = false ∧ d.failure? key = some r) ∧
        w'.tables.failureCount key = Breaker.reconcile (w.tables.failureCount key + 1) r := by
  obtain ⟨hdeeds, hsame⟩ | ⟨finishedAt, -, ⟨hdeeds, hstat⟩ | ⟨hdeeds, hstat⟩⟩ := h.stat?
  · refine .inl ⟨?_, Tables.failureCount_congr (hsame key)⟩
    intro d hd
    exact Deed.isSilent_of_not_isFinalized (hdeeds d hd) key
  · by_cases hkey : key = job.key
    · subst hkey
      refine .inr (.inl ⟨_, hdeeds, by simp [Deed.completes], ?_⟩)
      exact Tables.failureCount_afterSuccess ((hstat job.key).trans (if_pos rfl))
    · refine .inl ⟨?_, Tables.failureCount_congr ((hstat key).trans (if_neg hkey))⟩
      simp [hdeeds, Deed.IsSilent, Deed.completes, Deed.failure?, Ne.symm hkey]
  · have hfailure := Deed.completes_finalized job.nextStatus_ne_completed job finishedAt key
    by_cases hkey : key = job.key
    · subst hkey
      refine .inr (.inr ⟨_, job.nextRetryCount, hdeeds, ⟨hfailure, ?_⟩, ?_⟩)
      · simp [Deed.failure?, job.nextStatus_ne_completed]
      · exact Tables.failureCount_afterFailure ((hstat job.key).trans (if_pos rfl))
    · refine .inl ⟨?_, Tables.failureCount_congr ((hstat key).trans (if_neg hkey))⟩
      simp [hdeeds, Deed.IsSilent, hfailure, Deed.failure?, Ne.symm hkey]

namespace Fleet

variable {f g : Fleet σ} {rule : Rule σ} {key : SyncKey}

/-- **Every move** leaves the count of a key alone, resets it, or counts a failure. -/
theorem act_countMoves (q : Queue σ) (f : Fleet σ) (m : Move) (key : SyncKey) :
    CountMoves key f (f.act q m) := by
  have hmoves := act_moves q f m
  generalize f.act q m = g at hmoves
  cases hmoves with
  | clock | requested | unserved | unadvanced => exact .rests [] (by simp) rfl rfl
  | @scheduled d r answer w hrun =>
    refine .rests [.scheduled r answer] ?_ rfl ?_
    · simp [Deed.IsSilent, Deed.completes, Deed.failure?]
    · exact Tables.failureCount_congr (Tables.stat?_congr (Phase.leaves_of_steps hrun).stats key)
  | served _ hstep =>
    refine .rests _ ?_ rfl ?_
    · intro d hd
      obtain ⟨answer, rfl⟩ := mem_requestDeeds hd
      exact ⟨rfl, rfl⟩
    · exact Tables.failureCount_congr (Tables.stat?_congr hstep.leaves.stats key)
  | @claimed job w _ hw =>
    refine .rests [_] ?_ rfl ?_
    · intro d hd
      obtain rfl := List.mem_singleton.1 hd
      exact ⟨rfl, rfl⟩
    · refine Tables.failureCount_congr (Tables.stat?_congr ?_ key)
      rw [hw.tables]
      rfl
  | unclaimed _ hw =>
    refine .rests [] (by simp) rfl ?_
    exact Tables.failureCount_congr (Tables.stat?_congr (congrArg _ hw.tables) key)
  | advanced _ hstep =>
    obtain ⟨hsilent, hcount⟩ | ⟨d, hd, hsuccess, hcount⟩ | ⟨d, r, hd, hfailure, hcount⟩ :=
      hstep.failureCount key
    · exact .rests _ hsilent rfl hcount
    · exact .resets d hsuccess (by rw [hd]; rfl) hcount
    · exact .counts d r hfailure (by rw [hd]; rfl) hcount

/-- The count of a key is the one that the history tells. -/
theorem Arises.failureCount (h : f.Arises rule) (key : SyncKey) :
    f.world.tables.failureCount key = Breaker.countAfter (f.failuresSince key) := by
  refine h.induction (P := fun f => f.world.tables.failureCount key =
    Breaker.countAfter (f.failuresSince key)) (fun _ _ => rfl) ?_
  intro f q m _ hf
  exact (act_countMoves q f m key).failureCount hf

/-- The row of a job whose attempt was finalized as a failure has the new retry count. -/
theorem InCustody.retryCount_finalized (h : f.InCustody) {q : Queue σ} {m : Move} {job : Job}
    {status : JobStatus} {finishedAt : Instant}
    (hhistory : (f.act q m).history = .finalized job status finishedAt :: f.history)
    (hstatus : status ≠ .completed) :
    ((f.act q m).world.tables.job? job.id).map (·.retryCount) = some job.nextRetryCount := by
  have hmoves := act_moves q f m
  generalize f.act q m = g at hmoves hhistory
  cases hmoves with
  | clock | requested | unserved | unclaimed | unadvanced =>
    exact absurd hhistory (List.cons_ne_self _ _).symm
  | scheduled | claimed => cases (List.cons.inj hhistory).1
  | @served n r p w _ hstep =>
    have hdeeds : requestDeeds r.request r.phase p = [.finalized job status finishedAt] :=
      List.append_cancel_right hhistory
    obtain ⟨_, hd⟩ := mem_requestDeeds (hdeeds ▸ List.mem_singleton_self _)
    cases hd
  | @advanced n answer held stage w hn hstep =>
    have hdeeds : attemptDeeds held.job held.stage stage = [.finalized job status finishedAt] :=
      List.append_cancel_right hhistory
    obtain ⟨heldJob, before⟩ := held
    cases hstep.enters with
    | rests _ _ _ hnone => simp [hnone] at hdeeds
    | answers => simp [attemptDeeds] at hdeeds
    | ends hends hout _ _ _ hdeed hwrite =>
      have hheld : heldJob ∈ f.outstanding := mem_outstanding hn hout
      rw [hdeed] at hdeeds
      cases hends with
      | completed =>
        cases hdeeds
        exact absurd rfl hstatus
      | failed =>
        cases hdeeds
        rw [hwrite.job?_self (h.rows _ hheld).2]
        rfl
      | returned | returnedRow => cases hdeeds

/-- **The count of failures** of a key is a function of the history: it is `Breaker.countAfter` of
the new retry counts of the jobs of the key that have failed since the last success of the key.
After a failure its job has the new retry count, which is the last one of these, and the count is
neither less than it nor less than their number. -/
theorem failure_count (h : f.Arises rule) :
    (∀ key, f.world.tables.failureCount key = Breaker.countAfter (f.failuresSince key)) ∧
      ∀ (q : Queue σ) (m : Move) (job : Job) (status : JobStatus) (finishedAt : Instant),
        (f.act q m).history = .finalized job status finishedAt :: f.history →
        status ≠ .completed →
        ((f.act q m).world.tables.job? job.id).map (·.retryCount) = some job.nextRetryCount ∧
          (f.act q m).failuresSince job.key =
            f.failuresSince job.key ++ [job.nextRetryCount] ∧
          job.nextRetryCount ≤ (f.act q m).world.tables.failureCount job.key ∧
          ((f.act q m).failuresSince job.key).length ≤
            (f.act q m).world.tables.failureCount job.key := by
  refine ⟨h.failureCount, ?_⟩
  intro q m job status finishedAt hhistory hstatus
  have hsince : (f.act q m).failuresSince job.key =
      f.failuresSince job.key ++ [job.nextRetryCount] := by
    refine failuresSince_append ⟨Deed.completes_finalized hstatus job finishedAt job.key, ?_⟩
      hhistory
    simp [Deed.failure?, hstatus]
  have hcount := (act_countMoves q f m job.key).failureCount (h.failureCount job.key)
  refine ⟨h.inCustody.retryCount_finalized hhistory hstatus, hsince, ?_, ?_⟩
  · rw [hcount, hsince]
    exact Breaker.le_countAfter_append _ _
  · rw [hcount]
    exact Breaker.length_le_countAfter _

/-- The moves of an attempt that is finalized at the first try. -/
def attemptMoves (n : Nat) (answer : Answer) : List Move := List.replicate 3 (.advance n answer)

/-- A job fails twice and is claimed a third time; another one of the key is completed, then the
first one fails again, and the attempt of a new one has failed and is about to be finalized. -/
def counting : Fleet Unit :=
  plain <|
    [.schedule 5 (.plain none), .claim] ++ attemptMoves 0 (.error "refused") ++
      [.clock ⟨10000000000000⟩, .claim] ++ attemptMoves 1 (.error "refused") ++
      [.clock ⟨20000000000000⟩, .claim,
        .schedule 5 { ScheduleRequest.plain none with windowStart := ⟨-1⟩ }, .claim,
        .schedule 5 { ScheduleRequest.plain none with windowStart := ⟨-2⟩ }, .claim] ++
      attemptMoves 3 (.result noopResult) ++ attemptMoves 2 (.error "refused") ++
      List.replicate 2 (.advance 4 (.error "refused"))

/-- The attempt has been finalized. -/
def counted : Fleet Unit := counting.act .plain (.advance 4 (.error "refused"))

/-- The failure after the success is the third one of its job, so the count is three; after the
first failure of the other job it is four. -/
theorem failure_count_counted :
    counting.failuresSince ⟨⟨1⟩, ⟨2⟩⟩ = [3] ∧
      counting.world.tables.failureCount ⟨⟨1⟩, ⟨2⟩⟩ = 3 ∧
      counted.failuresSince ⟨⟨1⟩, ⟨2⟩⟩ = [3, 1] ∧
      2 ≤ counted.world.tables.failureCount ⟨⟨1⟩, ⟨2⟩⟩ ∧
      counted.world.tables.failureCount ⟨⟨1⟩, ⟨2⟩⟩ = 4 := by
  have harises : counting.Arises .free := plain_arises (fun _ _ => trivial) _
  have harises' : counted.Arises .free :=
    harises.leads (.single ⟨.plain, .advance 4 (.error "refused"), trivial, rfl⟩)
  have hsince : counting.failuresSince ⟨⟨1⟩, ⟨2⟩⟩ = [3] := by decide +kernel
  have hsince' : counted.failuresSince ⟨⟨1⟩, ⟨2⟩⟩ = [3, 1] := by decide +kernel
  obtain ⟨hcount, hfails⟩ := failure_count harises
  obtain ⟨-, -, -, hnumber⟩ := hfails .plain (.advance 4 (.error "refused")) _ .retrying _ rfl
    (by decide)
  refine ⟨hsince, ?_, hsince', ?_, ?_⟩
  · rw [hcount, hsince]
    decide
  · change ((counted.failuresSince ⟨⟨1⟩, ⟨2⟩⟩).length : Int) ≤ _ at hnumber
    rw [hsince'] at hnumber
    exact hnumber
  · rw [(failure_count harises').1, hsince']
    decide

end Fleet

end SyncQueue
