import SyncQueue.Proofs.BreakerState

/-!
# Pauses are respected

A key that is paused stays so until a job of the key succeeds. The end of its pause may move, since
every failure of the key decides anew whether a pause begins, but it never moves back: a pause that
is running is left alone, and one that begins ends later than the one that was over. As long as the
pause runs no job of the key is claimed.

* `Breaker.lt_pauseEnd`: a pause ends after it begins.
* `FailureStat.opens_iff`: when a failure begins a new pause.
* `FailureStat.pausedUntil_afterFailure`: a further failure does not shorten a pause.
* `Fleet.pause_respected`: what this means for a whole run of any number of consumers.
-/

namespace SyncQueue

open Time (Instant)

variable {σ : Type} {policy : BreakerPolicy} {now : Instant}

/-! ## The end of a pause -/

namespace Time.Instant

theorem isLeap_iff {t : Instant} : t.isLeap ↔ 1000000000 ≤ (t.nanosecond : Int) :=
  decide_eq_true_iff

theorem lt_ofNanos {t : Instant} {x : Int}
    (h : t.rank < x / 1000000000 * 2000000000 + x % 1000000000) : t < ofNanos x := h

/-- A span that is not empty leads to a later instant, also out of a leap second. -/
theorem lt_shifted {d : Delta} (h : 0 < d.nanos) (t : Instant) : t < t.shifted d := by
  have hnanosecond : t.nanosecond = (t.rank % 2000000000).toNat := rfl
  have hnanos : t.nanos = t.rank / 2000000000 * 1000000000 + t.nanosecond := rfl
  have hsecond : nanosPerSecond = 1000000000 := rfl
  have hranks : ranksPerSecond = 2000000000 := rfl
  have hleap := t.isLeap_iff
  unfold shifted
  simp only [Bool.or_eq_true, Bool.and_eq_true, Bool.not_eq_true', decide_eq_true_eq]
  cases hcase : t.isLeap with
  | false =>
    simp only [hcase, Bool.false_eq_true, false_iff, true_or, if_true] at hleap ⊢
    exact lt_ofNanos (by omega)
  | true =>
    simp only [hcase, true_iff, Bool.true_eq_false, false_or] at hleap ⊢
    split
    · exact lt_ofNanos (by omega)
    · split
      · change t.rank < t.rank + d.nanos
        omega
      · exact lt_ofNanos (by omega)

theorem lt_moved {ms : Int} (h : 0 < ms) (t : Instant) : t < t.moved ms :=
  lt_shifted (Int.mul_pos h (by decide)) t

theorem lt_last {t : Instant} (h : t.hasFourDigitYear) : t < last := by
  simp only [hasFourDigitYear, Bool.and_eq_true, decide_eq_true_eq] at h
  have hlast : startOfYear10000.rank < last.rank := by decide
  exact Int.lt_trans h.2 hlast

end Time.Instant

/-- A pause ends after it begins. -/
theorem Breaker.lt_pauseEnd (hpause : 0 < policy.pause.nanos) (hnow : now < Instant.last) :
    now < pauseEnd policy now := by
  unfold pauseEnd Instant.add?
  split
  · exact Instant.lt_shifted hpause now
  · exact hnow

namespace FailureStat

variable {stat : FailureStat} {n : Int}

theorem isPaused_eq_false_iff :
    stat.isPaused now = false ↔ ∀ end_, stat.pausedUntil = some end_ → end_ ≤ now := by
  unfold isPaused
  cases stat.pausedUntil with
  | none => simp
  | some end_ =>
    simp only [Option.any_some, decide_eq_false_iff_not, Option.some.injEq, forall_eq']
    exact Int.not_lt

/-- A failure begins a new pause if it finds none running and brings the count to the threshold. -/
theorem opens_iff :
    stat.opens policy n now ↔
      policy.threshold ≤ stat.failuresAfter n ∧
        ∀ end_, stat.pausedUntil = some end_ → end_ ≤ now := by
  rw [opens, Breaker.shouldPause, Bool.and_eq_true, decide_eq_true_eq]
  cases stat.pausedUntil <;> simp

theorem pausedUntil_of_opens (h : stat.opens policy n now) :
    (stat.afterFailure policy n now).pausedUntil = some (Breaker.pauseEnd policy now) := by
  rw [afterFailure, if_pos h]

theorem pausedUntil_of_not_opens (h : ¬stat.opens policy n now) :
    (stat.afterFailure policy n now).pausedUntil = stat.pausedUntil := by
  rw [afterFailure, if_neg h]

/-- **A further failure** leaves a pause that is running as it is, and lets one that is over begin
again. -/
theorem pausedUntil_afterFailure {end_ : Instant} (hlater : now < Breaker.pauseEnd policy now)
    (hstat : stat.pausedUntil = some end_) (n : Int) :
    ∃ end', (stat.afterFailure policy n now).pausedUntil = some end' ∧ end_ ≤ end' := by
  by_cases hopens : stat.opens policy n now
  · have hover : end_ ≤ now := (opens_iff.1 hopens).2 end_ hstat
    exact ⟨_, pausedUntil_of_opens hopens, Int.le_trans hover (Int.le_of_lt hlater)⟩
  · exact ⟨end_, (pausedUntil_of_not_opens hopens).trans hstat, Int.le_refl _⟩

end FailureStat

/-! ## A key that is paused -/

namespace Tables

/-- The key is paused, until the given instant or longer. -/
def PausedUntil (t : Tables) (key : SyncKey) (end_ : Instant) : Prop :=
  ∃ stat end', t.stat? key = some stat ∧ stat.pausedUntil = some end' ∧ end_ ≤ end'

/-- The ends of all pauses show years with four digits. -/
def PausesDated (t : Tables) : Prop :=
  ∀ stat ∈ t.stats, stat.pausedUntil.all (·.hasFourDigitYear) = true

variable {t t' : Tables} {key : SyncKey} {end_ : Instant}

theorem PausedUntil.congr (h : t.PausedUntil key end_) (hstat : t'.stat? key = t.stat? key) :
    t'.PausedUntil key end_ := by
  rwa [PausedUntil, hstat]

theorem stat?_congr (h : t'.stats = t.stats) (key : SyncKey) : t'.stat? key = t.stat? key := by
  rw [stat?, stat?, h]

theorem PausedUntil.afterFailure (h : t.PausedUntil key end_) (hpause : 0 < policy.pause.nanos)
    (hnow : now.hasFourDigitYear) (n : Int)
    (hstat : t'.stat? key = some (t.statAfterFailure policy key n now)) :
    t'.PausedUntil key end_ := by
  obtain ⟨stat, middle, hfound, hmiddle, hle⟩ := h
  obtain ⟨end', hend', hle'⟩ :=
    FailureStat.pausedUntil_afterFailure (Breaker.lt_pauseEnd hpause (Instant.lt_last hnow))
      hmiddle n
  rw [statAfterFailure, statOrNew_of_some hfound] at hstat
  exact ⟨_, end', hstat, hend', Int.le_trans hle hle'⟩

/-- The store finds the key paused at every earlier time. -/
theorem PausedUntil.isPausedAt (h : t.PausedUntil key end_) (hdated : t.PausesDated)
    (hnow : now.hasFourDigitYear) (hearly : now < end_) : t.isPausedAt key now := by
  obtain ⟨stat, end', hfound, hend', hle⟩ := h
  have hmem : stat ∈ t.stats := List.mem_of_find?_eq_some hfound
  have hyear : end'.hasFourDigitYear := by
    have hstat := hdated stat hmem
    rwa [hend', Option.all_some] at hstat
  have hbefore : now < end' := Int.lt_of_lt_of_le hearly hle
  refine List.any_eq_true.2 ⟨stat, hmem, ?_⟩
  simp [key_of_stat? hfound, hend', Instant.storedLt_of_fourDigits hnow hyear, hbefore]

end Tables

/-! ## Attempts -/

/-- An attempt was finalized. -/
def Deed.isFinalized : Deed → Bool
  | finalized .. => true
  | _ => false

/-- The time at which the executor answered, while the attempt is being finalized. -/
def AttemptStage.finishedAt? : AttemptStage → Option Instant
  | executed _ _ finishedAt _ => some finishedAt
  | _ => none

namespace AttemptStage.Steps

variable {q : Queue σ} {job : Job} {answer : Answer} {w w' : World σ} {stage stage' : AttemptStage}

/-- An executor answers at the time that the clock shows. -/
theorem finishedAt? (h : Steps q job answer w stage stage' w') {finishedAt : Instant}
    (hfinished : stage'.finishedAt? = some finishedAt) :
    stage.finishedAt? = some finishedAt ∨ finishedAt = w.now := by
  cases h with
  | executes =>
    obtain rfl := Option.some.inj hfinished
    exact .inr rfl
  | repeats => exact .inl hfinished
  | rests hclosed => exact .inl hfinished
  | begins | finalizes | fails | returns | unlogs | returnsRow | strands => cases hfinished

/-- **Statistics rows** change with the end of an attempt that is finalized: the row of its key is
reset after a success, and written anew after a failure. -/
theorem stat? (h : Steps q job answer w stage stage' w') :
    ((∀ d ∈ Fleet.attemptDeeds job stage stage', d.isFinalized = false) ∧
        ∀ key, w'.tables.stat? key = w.tables.stat? key) ∨
      ∃ finishedAt, stage.finishedAt? = some finishedAt ∧
        ((Fleet.attemptDeeds job stage stage' = [.finalized job .completed finishedAt] ∧
            ∀ key, w'.tables.stat? key =
              if key = job.key then (w.tables.stat? job.key).map (·.afterSuccess finishedAt)
              else w.tables.stat? key) ∨
          (Fleet.attemptDeeds job stage stage' = [.finalized job job.nextStatus finishedAt] ∧
            ∀ key, w'.tables.stat? key =
              if key = job.key then
                some (w.tables.statAfterFailure q.breaker job.key job.nextRetryCount finishedAt)
              else w.tables.stat? key)) := by
  have hsame (hstats : w'.tables.stats = w.tables.stats) (key : SyncKey) :
      w'.tables.stat? key = w.tables.stat? key := Tables.stat?_congr hstats key
  cases h with
  | begins => exact .inl ⟨by simp [Fleet.attemptDeeds], fun _ => rfl⟩
  | rests hclosed =>
    refine .inl ⟨?_, fun _ => rfl⟩
    cases stage with
    | ended | stranded => simp [Fleet.attemptDeeds]
    | claimed | executing | executed | failed | unlogged => cases hclosed
  | executes hw | repeats _ hw | fails _ hw | unlogs _ _ hw | strands _ hw =>
    exact .inl ⟨by simp [Fleet.attemptDeeds, Deed.isFinalized], hsame (congrArg _ hw.tables)⟩
  | returns _ hw | returnsRow hw =>
    refine .inl ⟨by simp [Fleet.attemptDeeds, Deed.isFinalized], hsame ?_⟩
    rw [hw.tables]
    rfl
  | @finalizes result startedAt finishedAt n status w' hw =>
    refine .inr ⟨finishedAt, rfl, ?_⟩
    cases hw with
    | success _ _ _ hw =>
      refine .inl ⟨rfl, fun key => ?_⟩
      rw [hw.tables]
      exact Tables.stat?_withSuccess ..
    | failure _ m hw =>
      refine .inr ⟨rfl, fun key => ?_⟩
      rw [hw.tables]
      exact Tables.stat?_withFailure ..

end AttemptStage.Steps

/-! ## Runs -/

namespace Deed

/-- An attempt of a job of the key was finalized as a success. -/
def completes (key : SyncKey) : Deed → Bool
  | finalized job .completed _ => decide (job.key = key)
  | _ => false

/-- A job of the key was claimed before an instant. -/
def claimsBefore (key : SyncKey) (end_ : Instant) : Deed → Bool
  | claimed job time => decide (job.key = key) && decide (time < end_)
  | _ => false

end Deed

namespace Fleet

/-- The clock and the ends of all pauses show years with four digits, so that the store orders them
by time. -/
def IsDated (f : Fleet σ) : Prop :=
  f.world.now.hasFourDigitYear = true ∧ f.world.tables.PausesDated

instance (f : Fleet σ) : Decidable f.IsDated :=
  inferInstanceAs (Decidable (_ = true ∧ ∀ stat ∈ f.world.tables.stats, _ = true))

/-- All queues share a policy, and moves are made only while the store orders instants by time. -/
def Rule.dated (policy : BreakerPolicy) : Rule σ := fun f q _ => q.breaker = policy ∧ f.IsDated

instance (policy : BreakerPolicy) (f : Fleet σ) (q : Queue σ) (m : Move) :
    Decidable (Rule.dated policy f q m) :=
  inferInstanceAs (Decidable (q.breaker = policy ∧ f.IsDated))

/-- The attempts that are being finalized finished in years with four digits. -/
def FinishesDated (f : Fleet σ) : Prop :=
  ∀ h ∈ f.held, ∀ finishedAt, h.stage.finishedAt? = some finishedAt → finishedAt.hasFourDigitYear

variable {f g : Fleet σ} {q : Queue σ} {key : SyncKey} {end_ : Instant}

theorem FinishesDated.act (h : f.FinishesDated) (hnow : f.world.now.hasFourDigitYear) (q : Queue σ)
    (m : Move) : (f.act q m).FinishesDated := by
  have hmoves := act_moves q f m
  generalize f.act q m = g at hmoves
  cases hmoves with
  | clock | scheduled | requested | served | unserved | unclaimed | unadvanced => exact h
  | claimed =>
    intro held hheld finishedAt hfinished
    obtain hheld | hheld := List.mem_append.1 hheld
    · exact h held hheld finishedAt hfinished
    · obtain rfl := List.mem_singleton.1 hheld
      cases hfinished
  | advanced hn hstep =>
    intro held hheld finishedAt hfinished
    obtain hheld | rfl := List.mem_or_eq_of_mem_set hheld
    · exact h held hheld finishedAt hfinished
    · obtain hbefore | rfl := hstep.finishedAt? hfinished
      · exact h _ (List.mem_of_getElem? hn) finishedAt hbefore
      · exact hnow

theorem Arises.finishesDated (h : f.Arises (.dated policy)) : f.FinishesDated :=
  h.induction (fun _ _ _ hheld => by cases hheld) fun _ q m hrule hf => hf.act hrule.2.1 q m

theorem claimsBefore_of_mem_attemptDeeds {job : Job} {stage stage' : AttemptStage} {d : Deed}
    (h : d ∈ attemptDeeds job stage stage') : d.claimsBefore key end_ = false := by
  unfold attemptDeeds at h
  split at h
  · obtain rfl := List.mem_singleton.1 h
    rfl
  · obtain rfl := List.mem_singleton.1 h
    rfl
  · obtain rfl := List.mem_singleton.1 h
    rfl
  · obtain rfl := List.mem_singleton.1 h
    rfl
  · cases h

/-- **A move** that does not complete a job of a paused key leaves the key paused as long as before,
and is not the claim of a job of the key before the pause ends. -/
theorem act_paused (hpause : 0 < q.breaker.pause.nanos) (hdated : f.IsDated)
    (hfinishes : f.FinishesDated) (h : f.world.tables.PausedUntil key end_) (m : Move) :
    ∃ new, (f.act q m).history = new ++ f.history ∧
      ((∀ d ∈ new, d.completes key = false) → (f.act q m).world.tables.PausedUntil key end_ ∧
        ∀ d ∈ new, d.claimsBefore key end_ = false) := by
  have hmoves := act_moves q f m
  generalize f.act q m = g at hmoves
  cases hmoves with
  | clock | requested | unserved | unadvanced =>
    exact ⟨[], rfl, fun _ => ⟨h, fun _ hd => by cases hd⟩⟩
  | unclaimed _ hw =>
    refine ⟨[], rfl, fun _ => ⟨h.congr ?_, fun _ hd => by cases hd⟩⟩
    exact Tables.stat?_congr (congrArg _ hw.tables) key
  | @scheduled d r answer w hrun =>
    refine ⟨[.scheduled r answer], rfl, fun _ => ⟨h.congr ?_, fun d hd => ?_⟩⟩
    · exact Tables.stat?_congr (Phase.leaves_of_steps hrun).stats key
    · obtain rfl := List.mem_singleton.1 hd
      rfl
  | served _ hstep =>
    refine ⟨_, rfl, fun _ => ⟨h.congr ?_, fun d hd => ?_⟩⟩
    · exact Tables.stat?_congr hstep.leaves.stats key
    · obtain ⟨answer, rfl⟩ := mem_requestDeeds hd
      rfl
  | @claimed job w hbest hw =>
    refine ⟨[_], rfl, fun _ => ⟨h.congr ?_, fun d hd => ?_⟩⟩
    · refine Tables.stat?_congr ?_ key
      rw [hw.tables]
      rfl
    · obtain rfl := List.mem_singleton.1 hd
      by_contra hclaim
      have hclaim : (decide (job.key = key) && decide (f.world.now < end_)) = true :=
        eq_true_of_ne_false hclaim
      obtain ⟨rfl, hearly⟩ := Bool.and_eq_true_iff.1 hclaim |>.imp of_decide_eq_true of_decide_eq_true
      have hpaused : f.world.tables.isPausedAt job.key f.world.now :=
        h.isPausedAt hdated.2 hdated.1 hearly
      have heligible := (Tables.mem_of_best? hbest).2
      simp only [Tables.isEligible, hpaused, Bool.not_true, Bool.and_false] at heligible
      cases heligible
  | @advanced n answer held stage w hn hstep =>
    refine ⟨_, rfl, fun hnew => ⟨?_, fun d hd => claimsBefore_of_mem_attemptDeeds hd⟩⟩
    obtain ⟨-, hsame⟩ | ⟨finishedAt, hfinished, ⟨hdeeds, hstat⟩ | ⟨-, hstat⟩⟩ := hstep.stat?
    · exact h.congr (hsame key)
    · -- a success is noted, so it is one of another key
      have hother : held.job.key ≠ key := by
        have hnone := hnew (.finalized held.job .completed finishedAt) (by simp [hdeeds])
        simpa [Deed.completes] using hnone
      refine h.congr ?_
      rw [hstat, if_neg hother.symm]
    · by_cases hkey : key = held.job.key
      · subst hkey
        have hyear := hfinishes held (List.mem_of_getElem? hn) finishedAt hfinished
        refine h.afterFailure hpause hyear held.job.nextRetryCount ?_
        rw [hstat, if_pos rfl]
      · refine h.congr ?_
        rw [hstat, if_neg hkey]

/-- **A pause is respected.** Once a key is paused, in any run of consumers that share a policy
whose pauses are not empty, and for as long as no success of the key has been finalized since: the
key stays paused, with an end that never moves back, and no job of the key has been claimed before
that end. -/
theorem pause_respected (hpause : 0 < policy.pause.nanos) (hf : f.Arises (.dated policy))
    {stat : FailureStat} (hstat : f.world.tables.stat? key = some stat)
    (hend : stat.pausedUntil = some end_) (hleads : f.Leads (.dated policy) g) :
    ∃ since, g.history = since ++ f.history ∧
      ((∀ d ∈ since, d.completes key = false) →
        (∃ stat' end', g.world.tables.stat? key = some stat' ∧
          stat'.pausedUntil = some end' ∧ end_ ≤ end') ∧
        ∀ d ∈ since, d.claimsBefore key end_ = false) := by
  refine (hleads.induction (P := fun g => g.FinishesDated ∧
    ∃ since, g.history = since ++ f.history ∧
      ((∀ d ∈ since, d.completes key = false) → g.world.tables.PausedUntil key end_ ∧
        ∀ d ∈ since, d.claimsBefore key end_ = false)) (fun g q m hrule hg => ?_) ?_).2
  · obtain ⟨hshare, hdated⟩ := hrule
    obtain ⟨hfinishes, since, hhistory, hpaused⟩ := hg
    refine ⟨hfinishes.act hdated.1 q m, ?_⟩
    by_cases hsuccess : ∀ d ∈ since, d.completes key = false
    · obtain ⟨hrunning, hclaims⟩ := hpaused hsuccess
      obtain ⟨new, hnew, hkeep⟩ := act_paused (hshare ▸ hpause) hdated hfinishes hrunning m
      refine ⟨new ++ since, by rw [hnew, hhistory, List.append_assoc], fun hall => ?_⟩
      obtain ⟨hrunning', hclaims'⟩ := hkeep fun d hd => hall d (List.mem_append_left _ hd)
      refine ⟨hrunning', fun d hd => ?_⟩
      obtain hd | hd := List.mem_append.1 hd
      · exact hclaims' d hd
      · exact hclaims d hd
    · -- a success has ended the pause, and nothing is said about what comes after it
      obtain ⟨new, hnew⟩ := act_history q g m
      refine ⟨new ++ since, by rw [hnew, hhistory, List.append_assoc], fun hall => ?_⟩
      exact absurd (fun d hd => hall d (List.mem_append_right _ hd)) hsuccess
  · exact ⟨hf.finishesDated, [], rfl, fun _ =>
      ⟨⟨stat, end_, hstat, hend, Int.le_refl _⟩, fun _ hd => by cases hd⟩⟩

/-- Two jobs of a key are claimed, and one of them fails. -/
def paused : Fleet Unit :=
  plain
    [.schedule 3 (.plain none), .schedule 3 { ScheduleRequest.plain none with windowStart := ⟨-1⟩ },
      .claim, .claim, .advance 0 (.error "refused"), .advance 0 (.error "refused"),
      .advance 0 (.error "refused")]

/-- The other one fails during the pause, a third job of the key is scheduled, and consumers look
for jobs in the middle of the pause and at its end. -/
def probed : Fleet Unit :=
  paused.run .plain
    [.advance 1 (.error "refused"), .advance 1 (.error "refused"), .advance 1 (.error "refused"),
      .schedule 3 { ScheduleRequest.plain none with windowStart := ⟨-2⟩ }, .clock ⟨500000000⟩,
      .claim, .clock ⟨2000000000⟩, .claim]

/-- The third job is claimed when the pause is over, and none before that. -/
theorem pause_respected_probed :
    probed.history.countP (·.claimsBefore ⟨⟨1⟩, ⟨2⟩⟩ ⟨2000000001⟩) = 3 ∧
      ∃ since, probed.history = since ++ paused.history ∧
        ∀ d ∈ since, d.claimsBefore ⟨⟨1⟩, ⟨2⟩⟩ ⟨2000000000⟩ = false := by
  have harises : paused.Arises (.dated ⟨1, .ofMillis 1000⟩) := ⟨⟨0⟩, (), .follows (by decide +kernel)⟩
  have hleads : paused.Leads (.dated ⟨1, .ofMillis 1000⟩) probed := .follows (by decide +kernel)
  obtain ⟨stat, hstat, hend⟩ : ∃ stat, paused.world.tables.stat? ⟨⟨1⟩, ⟨2⟩⟩ = some stat ∧
      stat.pausedUntil = some ⟨2000000000⟩ := ⟨_, rfl, by decide +kernel⟩
  obtain ⟨since, hhistory, hpaused⟩ := pause_respected (by decide) harises hstat hend hleads
  have hsuccess : ∀ d ∈ probed.history, d.completes ⟨⟨1⟩, ⟨2⟩⟩ = false := by decide +kernel
  refine ⟨by decide +kernel, since, hhistory, (hpaused fun d hd => hsuccess d ?_).2⟩
  rw [hhistory]
  exact List.mem_append_left _ hd

end Fleet

end SyncQueue
