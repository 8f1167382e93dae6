import SyncQueue.Proofs.Jitter
import SyncQueue.Proofs.Unfinalized

/-!
# The due time of a job that is retried

A failed attempt leaves a job that has attempts left with a due time: the time of the failure, and
after that a delay that chance moves. It is never in the past, and nearly always in the future. Only
where chance may take away a whole delay can it be now, and then the job may be claimed again at
once.

* `Backoff.delayMillis_le`, `Backoff.one_le_delayMillis`: the delay of an attempt.
* `Tables.AwaitsRetry`: the job is due again at a time.
* `Queue.finalizeFailure_awaits`, `Queue.release_awaits`: the writes of a due time.
* `Queue.retry_due`: when the due time is in the future.
* `Queue.retry_due_now`: it may be now.
-/

namespace SyncQueue

open Number (Binary64)
open Time (Instant)

variable {σ : Type}

/-! ## Delays -/

namespace Backoff

variable {b : Backoff} {s : RetrySettings} {ρ : ℚ} {attempt word : ℕ} {now : Instant}

/-- The ratio of bounded settings is a number between zero and one. -/
theorem exists_ratio (hs : s.Bounded) : ∃ ρ, s.jitterRatio.value? = some ρ ∧ 0 ≤ ρ ∧ ρ ≤ 1 :=
  Binary64.exists_value_of_le hs.jitterRatio.1 hs.jitterRatio.2

/-- **A delay** is at most twice what it is without chance. -/
theorem delayMillis_le (hratio : b.jitter.value? = some ρ) (hlow : 0 ≤ ρ) (hhigh : ρ ≤ 1)
    (hcapped : b.cappedMillis attempt ≤ 2 ^ 51) :
    b.delayMillis attempt word ≤ 2 * b.cappedMillis attempt := by
  have hvalue : b.ratio.value? = some ρ := Binary64.value?_clampBelow hratio hlow
  unfold delayMillis
  dsimp only
  split
  · exact jittered_le hvalue hlow hhigh hcapped word
  · omega

/-- **A delay** is not empty if it is half a millisecond when it is computed exactly. -/
theorem one_le_delayMillis (hratio : b.jitter.value? = some ρ) (hlow : 0 ≤ ρ) (hhigh : ρ ≤ 1)
    (hpos : 1 ≤ b.cappedMillis attempt) (hcapped : b.cappedMillis attempt ≤ 2 ^ 51)
    (hexact : 1 / 2 ≤ exactMillis ρ (b.cappedMillis attempt) word) :
    1 ≤ b.delayMillis attempt word := by
  have hvalue : b.ratio.value? = some ρ := Binary64.value?_clampBelow hratio hlow
  unfold delayMillis
  dsimp only
  split
  · exact one_le_jittered hvalue hlow hhigh hpos hcapped hexact
  · exact hpos

/-- A ratio that is not too close to one leaves half a millisecond of a minute. -/
theorem half_le_exactMillis {capped : ℕ} (hlow : 0 ≤ ρ) (hhigh : ρ ≤ 119999 / 120000)
    (hcapped : 60000 ≤ capped) (word : ℕ) : 1 / 2 ≤ exactMillis ρ capped word := by
  have hcapped' : (60000 : ℚ) ≤ capped := by exact_mod_cast hcapped
  have hsway : ρ * -1 ≤ ρ * (2 * unit word - 1) :=
    mul_le_mul_of_nonneg_left (by linarith [unit_nonneg word]) hlow
  calc (1 / 2 : ℚ) = 60000 * (1 / 120000) := by norm_num
    _ ≤ capped * (1 + ρ * (2 * unit word - 1)) :=
      mul_le_mul hcapped' (by linarith) (by norm_num) (by linarith)

end Backoff

/-! ## What is written -/

/-- The job waits for a retry at a due time. -/
def Tables.AwaitsRetry (t : Tables) (id : Uuid) (due : Instant) : Prop :=
  ∃ row, t.job? id = some row ∧ row.status = .retrying ∧ row.nextRunAt = due

section Writes

variable {q : Queue σ} {job : Job} {t t' : Tables} {due now : Instant} {w w' : World σ}

/-- A failed attempt that is not the last one leaves the job waiting. -/
theorem Tables.AwaitsRetry.afterFailure (hjob : job.isLastAttempt = false) (summary : String)
    (hrow : (t.job? job.id).isSome)
    (ht : t'.jobs = (t.modifyJob job.id (job.afterFailure due summary now)).jobs) :
    t'.AwaitsRetry job.id due := by
  obtain ⟨row, hrow⟩ := Option.isSome_iff_exists.1 hrow
  refine ⟨job.afterFailure due summary now row, ?_, ?_, ?_⟩
  · rw [job?_congr ht, job?_modifyJob fun _ => by rfl, if_pos rfl, hrow, Option.map_some]
  · rw [Job.afterFailure, Job.nextStatus, hjob]
    rfl
  · rw [Job.afterFailure, hjob]
    rfl

/-- A job that waits is claimed only when the store takes its due time to have come. -/
theorem Tables.AwaitsRetry.storedLe_of_claim {claimed : Job} (h : w.tables.AwaitsRetry job.id due)
    (hids : (w.tables.jobs.map (·.id)).Nodup) (hclaim : q.claim w = .ok (some claimed) w')
    (hid : claimed.id = job.id) : due.storedLe w.now := by
  obtain ⟨row, hrow, -, rfl⟩ := h
  obtain ⟨hnone, -⟩ | ⟨best, hbest, hfound, -⟩ := (q.claim_meets w).ok_of_eq hclaim
  · cases hnone
  · cases hbest
    obtain ⟨hmem, heligible⟩ := mem_of_best? hfound
    have hsame : best = row := by
      have hbest := job?_of_mem hids hmem
      rw [show best.id = job.id from hid, hrow] at hbest
      exact (Option.some.inj hbest).symm
    simp only [isEligible, Bool.and_eq_true] at heligible
    exact hsame ▸ heligible.1.2

namespace Queue

theorem dueAfter_of_not_last (hjob : job.isLastAttempt = false) (q : Queue σ) (now : Instant)
    (word : ℕ) : q.dueAfter job now word = q.backoff.nextRunAt job.delayAttempt now word := by
  rw [dueAfter, hjob]
  exact if_neg Bool.false_ne_true

/-- **Finalizing a failure** makes a job with attempts left due after its delay. -/
theorem finalizeFailure_awaits (hjob : job.isLastAttempt = false) {result : ExecutionResult}
    {startedAt : Instant} {status : JobStatus}
    (h : q.finalizeFailure job result startedAt now w = .ok status w') :
    w'.tables.AwaitsRetry job.id
      (q.backoff.nextRunAt job.delayAttempt now (q.word w.drawn)) := by
  have hmeets : Meets (q.finalizeFailure job result startedAt now) w
      (fun _ w' => w'.tables.AwaitsRetry job.id (q.dueAfter job now (q.word w.drawn)))
      fun _ _ => True := by
    refine (q.commitFailure_meets job result startedAt now w).bind (fun _ w₁ h₁ => ?_)
      fun _ _ _ => trivial
    refine Meets.log_bind fun w₂ h₂ => ?_
    refine (reportFailed_meets job w₂).bind_total fun _ w₃ h₃ => ?_
    have hjobs : w₃.tables.jobs = (w.tables.modifyJob job.id (job.afterFailure
        (q.dueAfter job now (q.word w.drawn)) (result.errorSummary.getD "") now)).jobs := by
      rw [h₃.tables, h₂.tables, h₁.2.tables]
      exact Tables.jobs_withFailure ..
    exact .afterFailure hjob _ h₁.1.1 hjobs
  rw [← dueAfter_of_not_last hjob]
  exact hmeets.ok_of_eq h

/-- **Releasing** a job with attempts left makes it due after its delay, or leaves all jobs as they
were. -/
theorem release_awaits (hjob : job.isLastAttempt = false) {result : ExecutionResult}
    {cause : QueueError} {startedAt : Instant}
    (h : q.release job result cause startedAt w = .ok () w') :
    w'.tables.jobs = w.tables.jobs ∨ w'.tables.AwaitsRetry job.id
      (q.backoff.nextRunAt job.delayAttempt w.now (q.word w.drawn)) := by
  obtain ⟨drawn, w₁, -, hrun, htables⟩ := q.release_returned job result cause startedAt w
  obtain rfl : w₁ = w' := (EStateM.Result.ok.inj (hrun.symm.trans h)).2
  rw [dueAfter_of_not_last hjob] at htables
  generalize q.backoff.nextRunAt job.delayAttempt w.now (q.word w.drawn) = due at htables ⊢
  have hbare (t : Tables) (ht : t.jobs = (w.tables.withBareReturn job cause due w.now).jobs) :
      t.jobs = w.tables.jobs ∨ t.AwaitsRetry job.id due := by
    cases hrow : w.tables.job? job.id with
    | none => exact .inl (ht.trans (Tables.modifyFirst_of_find?_eq_none hrow))
    | some row => exact .inr (.afterFailure hjob _ (by rw [hrow]; rfl) ht)
  rw [htables, returned]
  split
  · exact hbare _ rfl
  · split
    · exact hbare _ rfl
    · exact .inl rfl

/-! ## When a retry is due -/

/-- **The due time of a retry.** A job with attempts left that fails under accepted settings, three
weeks before the last instant or earlier, is due after its delay; there is such an instant, and both
finalizing the failure and releasing the job write it.

1. The due time is not before the failure. It is after the failure if the delay, computed exactly,
   is half a millisecond or longer, as any delay is with a ratio up to 119999/120000.
2. At the time of the failure the job is claimed again only if the store takes its due time to have
   come. While years have four digits, that means that the due time is not after the failure. -/
theorem retry_due {s : RetrySettings} (hs : s.validate = .ok ())
    (hq : s.backoff? = some q.backoff) (hjob : job.isLastAttempt = false)
    (hfirst : Instant.first ≤ now) (hlate : now ≤ Instant.weeksBeforeLast 3) (w : World σ) :
    ∃ ratio due, s.jitterRatio.value? = some ratio ∧
      now.addMillis? (q.backoff.delayMillis job.delayAttempt (q.word w.drawn)) = some due ∧
      (∀ result startedAt status w',
        q.finalizeFailure job result startedAt now w = .ok status w' →
          w'.tables.AwaitsRetry job.id due) ∧
      (∀ result cause startedAt w', w.now = now →
        q.release job result cause startedAt w = .ok () w' →
          w'.tables.jobs = w.tables.jobs ∨ w'.tables.AwaitsRetry job.id due) ∧
      now ≤ due ∧
      (1 / 2 ≤ Backoff.exactMillis ratio (q.backoff.cappedMillis job.delayAttempt)
        (q.word w.drawn) → now < due) ∧
      (ratio ≤ 119999 / 120000 → now < due) ∧
      ∀ v claimed v', v.now = now → (v.tables.jobs.map (·.id)).Nodup →
        v.tables.AwaitsRetry job.id due → q.claim v = .ok (some claimed) v' →
          claimed.id = job.id → due.storedLe now ∧
            (now.hasFourDigitYear → due.hasFourDigitYear → due ≤ now) := by
  have hbounded := RetrySettings.validate_eq_ok_iff.1 hs
  obtain ⟨ratio, hratio, hlow, hhigh⟩ := Backoff.exists_ratio hbounded
  have hbackoff := Option.some.inj (hbounded.backoff?_eq.symm.trans hq)
  have hjitter : q.backoff.jitter.value? = some ratio := by rwa [← hbackoff]
  have hbounds := q.backoff.cappedMillis_bounds (by rw [← hbackoff]) hbounded.maxDelay
    job.delayAttempt
  have hdelay := hbounded.maxDelay.2
  have hmost : q.backoff.delayMillis job.delayAttempt (q.word w.drawn) ≤
      2 * q.backoff.cappedMillis job.delayAttempt :=
    Backoff.delayMillis_le hjitter hlow hhigh (by omega)
  have hweeks : Instant.millisOfWeeks 3 = 1814400000 := rfl
  obtain ⟨hadd, hdue⟩ := Backoff.nextRunAt_of_weeks hfirst hlate (hmost.trans (by omega))
  have hlater (hexact : 1 / 2 ≤ Backoff.exactMillis ratio
      (q.backoff.cappedMillis job.delayAttempt) (q.word w.drawn)) :
      now < q.backoff.nextRunAt job.delayAttempt now (q.word w.drawn) := by
    have hpos := Backoff.one_le_delayMillis hjitter hlow hhigh (by omega) (by omega) hexact
    rw [hdue]
    exact Instant.lt_moved (by omega) now
  refine ⟨ratio, _, hratio, hadd, fun result startedAt status w' h => finalizeFailure_awaits hjob h,
    fun result cause startedAt w' hnow h => hnow ▸ release_awaits hjob h, ?_, hlater,
    fun hsmall => hlater (Backoff.half_le_exactMillis hlow hsmall hbounds.1 _), ?_⟩
  · rw [hdue]
    exact now.le_moved _
  · intro v claimed v' hnow hids hawaits hclaim hid
    have hstored := hawaits.storedLe_of_claim hids hclaim hid
    rw [hnow] at hstored
    refine ⟨hstored, fun hyear hyear' => ?_⟩
    rw [Instant.storedLe_of_fourDigits hyear' hyear] at hstored
    exact of_decide_eq_true hstored

/-- The small queue with a ratio for chance and one random word over and over. -/
def swaying (ratio : Binary64) (word : ℕ) : Queue Unit :=
  { Queue.plain with
    backoff := ⟨ratio, ⟨1800, 0⟩⟩
    word _ := word }

/-- A world with one job, which a consumer holds. -/
def holding (now : Instant) : World Unit := .initial now { Tables.empty with jobs := [heldOnce] } ()

/-- The first failure of the job that is held. -/
def firstFailure (ratio : Binary64) (word : ℕ) (now : Instant) : QueueM Unit JobStatus :=
  (swaying ratio word).finalizeFailure heldOnce (.failure 0 0 "late") now now

/-- The result of a computation that succeeds. -/
def result? {α : Type} (x : QueueM Unit α) (w : World Unit) : Option (α × World Unit) :=
  match x w with
  | .ok a w' => some (a, w')
  | .error .. => none

theorem result?_eq_some {α : Type} {x : QueueM Unit α} {w : World Unit} {r : α × World Unit}
    (h : result? x w = some r) : x w = .ok r.1 r.2 := by
  unfold result? at h
  split at h
  · rename_i hrun
    rw [← Option.some.inj h]
    exact hrun
  · cases h

/-- With a ratio of one and a word that takes away all but a millisecond, the job is still due
later. -/
theorem retry_due_barely :
    ∃ status w' due, firstFailure (.ofNat 1) (2 ^ 47) ⟨9⟩ (holding ⟨9⟩) = .ok status w' ∧
      w'.tables.AwaitsRetry heldOnce.id due ∧ (⟨9⟩ : Instant) < due := by
  have hs : (⟨.ofNat 1, 30, 5⟩ : RetrySettings).validate = .ok () := by decide +kernel
  have hbackoff : (⟨.ofNat 1, 30, 5⟩ : RetrySettings).backoff? =
      some (swaying (.ofNat 1) (2 ^ 47)).backoff :=
    (RetrySettings.validate_eq_ok_iff.1 hs).backoff?_eq
  have hfirst : Instant.first ≤ ⟨9⟩ := by decide
  have hlate : (⟨9⟩ : Instant) ≤ Instant.weeksBeforeLast 3 := by decide +kernel
  obtain ⟨ratio, due, hratio, -, hfinalize, -, -, hlater, -⟩ :=
    @retry_due Unit (swaying (.ofNat 1) (2 ^ 47)) heldOnce ⟨9⟩ _ hs hbackoff rfl hfirst hlate
      (holding ⟨9⟩)
  obtain rfl : 1 = ratio := by
    have hone := Binary64.value?_ofNat (n := 1) (by decide)
    rw [Nat.cast_one] at hone
    exact Option.some.inj (hone.symm.trans hratio)
  have hcapped : (swaying (.ofNat 1) (2 ^ 47)).backoff.cappedMillis heldOnce.delayAttempt =
      60000 := by decide +kernel
  have hexact : 1 / 2 ≤ Backoff.exactMillis 1
      ((swaying (.ofNat 1) (2 ^ 47)).backoff.cappedMillis heldOnce.delayAttempt) (2 ^ 47) := by
    rw [hcapped]
    norm_num [Backoff.exactMillis, Backoff.unit]
  have hok : (result? (firstFailure (.ofNat 1) (2 ^ 47) ⟨9⟩) (holding ⟨9⟩)).isSome := by
    decide +kernel
  obtain ⟨⟨status, w'⟩, hresult⟩ := Option.isSome_iff_exists.1 hok
  have hrun := result?_eq_some hresult
  exact ⟨status, w', due, hrun, hfinalize _ _ _ _ hrun, hlater hexact⟩

/-! ## Due times that are now, or seem to have come -/

/-- A failure at the time `now` under accepted settings, three weeks before the last instant or
earlier, has left a job waiting for a retry. -/
def HasFailed (q : Queue Unit) (job : Job) (now due : Instant) (w' : World Unit) : Prop :=
  ∃ (s : RetrySettings) (result : ExecutionResult) (startedAt : Instant) (status : JobStatus)
    (w : World Unit), s.validate = .ok () ∧ s.backoff? = some q.backoff ∧
      job.isLastAttempt = false ∧ Instant.first ≤ now ∧ now ≤ Instant.weeksBeforeLast 3 ∧
      w.now = now ∧ q.finalizeFailure job result startedAt now w = .ok status w' ∧
      w'.tables.AwaitsRetry job.id due

theorem hasFailed_of_firstFailure {ratio : Binary64} {word : ℕ} {now due : Instant}
    {status : JobStatus} {w' : World Unit} {row : Job}
    (hs : (⟨ratio, 30, 5⟩ : RetrySettings).validate = .ok ()) (hfirst : Instant.first ≤ now)
    (hlate : now ≤ Instant.weeksBeforeLast 3)
    (hrun : firstFailure ratio word now (holding now) = .ok status w')
    (hrow : w'.tables.job? ⟨0⟩ = some row) (hstatus : row.status = .retrying)
    (hdue : row.nextRunAt = due) : HasFailed (swaying ratio word) heldOnce now due w' := by
  have hbackoff := (RetrySettings.validate_eq_ok_iff.1 hs).backoff?_eq
  exact ⟨_, _, now, status, _, hs, hbackoff, rfl, hfirst, hlate, rfl, hrun, row, hrow, hstatus,
    hdue⟩

/-- The last second of the year 9999. -/
def endOf9999 : Instant := .ofNanos 253402300799000000000

/-- **A retry may be due at once.** With a ratio of one chance can take away a whole delay. And a
job that is due in the first minute of the year 10000 can be claimed in the second before, because
the store compares texts. -/
theorem retry_due_now :
    (¬∀ q job now due w', HasFailed q job now due w' → now < due) ∧
    ¬∀ q job now due w', HasFailed q job now due w' → now < due →
      ∀ claimed w'', q.claim w' = .ok (some claimed) w'' → claimed.id ≠ job.id := by
  constructor
  · intro hclaim
    have hleft : ((result? (firstFailure (.ofNat 1) 0 ⟨9⟩) (holding ⟨9⟩)).bind fun r =>
        (r.2.tables.job? ⟨0⟩).map fun row => (row.status, row.nextRunAt)) =
          some (.retrying, ⟨9⟩) := by decide +kernel
    obtain ⟨⟨status, w'⟩, hresult, hleft⟩ := Option.bind_eq_some_iff.1 hleft
    obtain ⟨row, hrow, hwritten⟩ := Option.map_eq_some_iff.1 hleft
    obtain ⟨hstatus, hdue⟩ := Prod.mk.inj hwritten
    have hfailed := hasFailed_of_firstFailure (by decide +kernel) (by decide) (by decide +kernel)
      (result?_eq_some hresult) hrow hstatus hdue
    exact Int.lt_irrefl _ (hclaim _ _ _ _ _ hfailed)
  · intro hclaim
    have hleft : ((result? (firstFailure (.ofNat 0) 0 endOf9999) (holding endOf9999)).bind fun r =>
        (result? (swaying (.ofNat 0) 0).claim r.2).bind fun c => c.1.bind fun claimed =>
          (r.2.tables.job? ⟨0⟩).map fun row => (claimed.id, row.status, row.nextRunAt)) =
            some (⟨0⟩, .retrying, .ofNanos 253402300859000000000) := by decide +kernel
    obtain ⟨⟨status, w'⟩, hresult, hleft⟩ := Option.bind_eq_some_iff.1 hleft
    obtain ⟨⟨claimed?, w''⟩, hnext, hleft⟩ := Option.bind_eq_some_iff.1 hleft
    obtain ⟨claimed, rfl, hleft⟩ := Option.bind_eq_some_iff.1 hleft
    obtain ⟨row, hrow, hwritten⟩ := Option.map_eq_some_iff.1 hleft
    obtain ⟨hid, hwritten⟩ := Prod.mk.inj hwritten
    obtain ⟨hstatus, hdue⟩ := Prod.mk.inj hwritten
    have hfailed := hasFailed_of_firstFailure (by decide +kernel) (by decide +kernel)
      (by decide +kernel) (result?_eq_some hresult) hrow hstatus hdue
    exact hclaim _ _ _ _ _ hfailed (by decide +kernel) claimed w'' (result?_eq_some hnext) hid

end Queue

end Writes

end SyncQueue
