import SyncQueue.Proofs.Pauses

/-!
# One failure and the pause of its key

A failure of a key is recorded by several statements, two of which write the row of the key only
under conditions that overlap. From whatever state the row was in, they leave what the tracker
answers: the raised count, and a pause that runs if the count has reached the threshold. A pause
that was running stays; one that was over begins again.

* `FailureStat.exists_pause`: at the threshold the key is paused, not shorter than before.
* `Tables.exists_alert_raiseAlert`: the alert that is kept up to date.
* `Queue.failure_recorded`: what `Queue.recordFailure` answers and leaves.
-/

namespace SyncQueue

open Time (Instant)

variable {σ : Type} {policy : BreakerPolicy} {now end_ : Instant}

/-! ## The row of the key -/

namespace FailureStat

variable {stat : FailureStat} {n : Int}

/-- A pause that is running stays as it is. -/
theorem pausedUntil_of_running (hpause : stat.pausedUntil = some end_) (hrunning : now < end_) :
    (stat.afterFailure policy n now).pausedUntil = some end_ := by
  have hkept : ¬stat.opens policy n now := by
    rw [opens_iff]
    rintro ⟨-, hover⟩
    exact Int.not_lt.2 (hover end_ hpause) hrunning
  rw [pausedUntil_of_not_opens hkept, hpause]

/-- **At the threshold** a pause is running after the failure, and it does not end before the one
from before. -/
theorem exists_pause (hlater : now < Breaker.pauseEnd policy now)
    (hreached : policy.threshold ≤ stat.failuresAfter n) :
    ∃ end', (stat.afterFailure policy n now).pausedUntil = some end' ∧ now < end' ∧
      ∀ end_, stat.pausedUntil = some end_ → end_ ≤ end' := by
  by_cases hopens : stat.opens policy n now
  · refine ⟨_, pausedUntil_of_opens hopens, hlater, fun end_ hend => ?_⟩
    have hover : end_ ≤ now := (opens_iff.1 hopens).2 end_ hend
    exact Int.le_trans hover (Int.le_of_lt hlater)
  · have hrunning : ∃ end_, stat.pausedUntil = some end_ ∧ ¬end_ ≤ now := by
      simpa [opens_iff, hreached] using hopens
    obtain ⟨end_, hend, hlate⟩ := hrunning
    refine ⟨end_, by rw [pausedUntil_of_not_opens hopens, hend], Int.not_le.1 hlate, ?_⟩
    intro other hother
    rw [hend, Option.some.injEq] at hother
    exact Int.le_of_eq (congrArg Instant.rank hother.symm)

end FailureStat

/-! ## The alert of the key -/

namespace Tables

/-- Some open alert of the key has the message that it was given. -/
theorem exists_alert_raiseAlert (t : Tables) (key : SyncKey) (message : String) (now : Instant) :
    ∃ alert ∈ (t.raiseAlert key message now).alerts,
      alert.isOpenFor key = true ∧ alert.message = message := by
  unfold raiseAlert
  split
  · rename_i hopen
    have hkeep : ∀ alert : Alert, alert.isOpenFor key = true →
        (alert.refreshed message now).isOpenFor key = true := fun _ h => h
    obtain ⟨alert, hfound⟩ :=
      Option.isSome_iff_exists.1 (List.find?_isSome.2 (List.any_eq_true.1 hopen))
    have hafter : (modifyFirst (·.isOpenFor key) (·.refreshed message now) t.alerts).find?
        (·.isOpenFor key) = (t.alerts.find? (·.isOpenFor key)).map (·.refreshed message now) :=
      find?_modifyFirst_self hkeep
    rw [hfound, Option.map_some] at hafter
    have hfirst : alert.isOpenFor key = true := by simpa using List.find?_some hfound
    exact ⟨_, List.mem_of_find?_eq_some hafter, hkeep alert hfirst, rfl⟩
  · refine ⟨Queue.newAlert key message now, List.mem_append_right _ (List.mem_singleton_self _), ?_,
      rfl⟩
    simp [Queue.newAlert, Alert.isOpenFor]

end Tables

/-! ## Recording a failure -/

namespace Queue

/-- **One failure of a key** is recorded from any state of the key: it has no row, or a row with any
count that can still be raised and with any pause. The answer is what the row says afterwards. The
count is one more than before, or the retry count of the job if that is more.

1. If the count reaches the threshold, the key is paused, not shorter than before. A pause that was
   running stays as it was. A new one begins exactly if there was none or it was over; it lasts for
   the pause of the policy, or until the end of time. An open alert tells the count and the pause.
2. If the count stays below the threshold, neither the pause nor the alerts change.

The rows of all other keys stay as they were. -/
theorem failure_recorded {q : Queue σ} {w : World σ} {key : SyncKey} {old n : Int}
    {pause : Option Instant} (hq : ¬q.IsFallible)
    (hrow : w.tables.stat? key = none ∧ old = 0 ∧ pause = none ∨
      ∃ stat, w.tables.stat? key = some stat ∧ stat.consecutiveFailures = old ∧
        stat.pausedUntil = pause)
    (hold : old < FailureStat.maxCount) (hpause : 0 < policy.pause.nanos)
    (hnow : now < Instant.last) :
    ∃ state w' row, q.recordFailure policy key n now w = .ok state w' ∧
      w'.tables.stat? key = some row ∧ row.consecutiveFailures = state.consecutiveFailures ∧
      row.pausedUntil = state.pausedUntil ∧ state.consecutiveFailures = max (old + 1) n ∧
      (policy.threshold ≤ state.consecutiveFailures →
        (∃ end', state.pausedUntil = some end' ∧ now < end' ∧
          ∀ end_, pause = some end_ → end_ ≤ end') ∧
        (∀ end_, pause = some end_ → now < end_ → state.pausedUntil = some end_) ∧
        (state.opened = true ↔ ∀ end_, pause = some end_ → end_ ≤ now) ∧
        (state.opened = true →
          state.pausedUntil = some ((now.add? policy.pause).getD Instant.last)) ∧
        ∃ alert ∈ w'.tables.alerts, alert.isOpenFor key = true ∧
          alert.message = Breaker.openMessage key state.consecutiveFailures state.pausedUntil) ∧
      (state.consecutiveFailures < policy.threshold →
        state.pausedUntil = pause ∧ state.opened = false ∧
          w'.tables.alerts = w.tables.alerts) ∧
      ∀ key', key' ≠ key → w'.tables.stat? key' = w.tables.stat? key' := by
  set before := w.tables.statOrNew key now with hbefore
  obtain ⟨hcount, hpaused⟩ : before.consecutiveFailures = old ∧ before.pausedUntil = pause := by
    obtain ⟨hnone, rfl, rfl⟩ | ⟨stat, hsome, rfl, rfl⟩ := hrow
    · rw [hbefore, Tables.statOrNew_of_none hnone]
      exact ⟨rfl, rfl⟩
    · rw [hbefore, Tables.statOrNew_of_some hsome]
      exact ⟨rfl, rfl⟩
  have hcan : CanCount w.tables key now := by
    refine decide_eq_true (Int.add_one_le_iff.2 ?_)
    rwa [← hbefore, hcount]
  obtain ⟨state, w', hrun, rfl, -, hw'⟩ :=
    ((q.recordFailure_meets policy key n now w).mono (fun _ _ h => h)
      fun _ _ h => h.2.elim hq (· hcan)).exists_ok
  have hafter : w.tables.statAfterFailure policy key n now = before.afterFailure policy n now := rfl
  have hfailures : (before.afterFailure policy n now).consecutiveFailures = max (old + 1) n := by
    rw [← hcount]
    rfl
  have hstats := w.tables.stat?_withFailure policy key n now
  rw [hafter] at hrun hstats
  rw [← hw'.tables] at hstats
  refine ⟨_, w', before.afterFailure policy n now, hrun, by rw [hstats, if_pos rfl], rfl, rfl,
    hfailures, fun hreached => ?_, fun hbelow => ?_, fun key' hne => by rw [hstats, if_neg hne]⟩
  · have hopens : before.opens policy n now = true ↔ ∀ end_, pause = some end_ → end_ ≤ now := by
      rw [FailureStat.opens_iff, hpaused]
      exact and_iff_right hreached
    refine ⟨?_, ?_, hopens, FailureStat.pausedUntil_of_opens, ?_⟩
    · rw [← hpaused]
      exact FailureStat.exists_pause (Breaker.lt_pauseEnd hpause hnow) hreached
    · intro end_ hend hrunning
      exact FailureStat.pausedUntil_of_running (hpaused.trans hend) hrunning
    · rw [hw'.tables, Tables.withFailure, hafter, if_pos hreached]
      exact Tables.exists_alert_raiseAlert ..
  · have hkept : ¬before.opens policy n now := by
      rw [FailureStat.opens_iff]
      exact fun h => Int.not_le.2 hbelow h.1
    refine ⟨by rw [← hpaused, FailureStat.pausedUntil_of_not_opens hkept],
      Bool.eq_false_iff.2 hkept, ?_⟩
    rw [hw'.tables, Tables.withFailure, hafter, if_neg (Int.not_le.2 hbelow), Tables.alerts_putStat]

/-- A key with one failure, whose pause is over. -/
def rested : World Unit :=
  .initial ⟨5⟩ { Tables.empty with stats := [⟨⟨⟨1⟩, ⟨2⟩⟩, 1, some ⟨0⟩, some ⟨5⟩, ⟨0⟩, ⟨0⟩⟩] } ()

/-- The fourth failure of a job brings the count from one to the threshold, and the pause begins
again at the instant at which the old one ends. -/
theorem failure_recorded_rested :
    ∃ state w', Queue.plain.recordFailure ⟨4, .ofMillis 1000⟩ ⟨⟨1⟩, ⟨2⟩⟩ 4 ⟨5⟩ rested = .ok state w' ∧
      state = ⟨4, some ⟨2000000005⟩, true⟩ := by
  obtain ⟨state, w', row, hrun, -, -, -, hcount, hreached, -⟩ :=
    @failure_recorded Unit ⟨4, .ofMillis 1000⟩ ⟨5⟩ .plain rested ⟨⟨1⟩, ⟨2⟩⟩ 1 4 (some ⟨5⟩)
      not_isFallible_plain (.inr ⟨_, rfl, rfl, rfl⟩) (by decide) (by decide) (by decide)
  obtain ⟨-, -, hopened, hpaused, -⟩ := hreached (by rw [hcount]; decide)
  have hopen : state.opened = true := hopened.2 fun end_ hend => by
    cases hend
    decide
  have hend : (Instant.add? ⟨5⟩ (.ofMillis 1000)).getD Instant.last = ⟨2000000005⟩ := by decide +kernel
  refine ⟨state, w', hrun, ?_⟩
  obtain ⟨failures, pausedUntil, opened⟩ := state
  rw [FailureState.mk.injEq]
  exact ⟨hcount, (hpaused hopen).trans (congrArg some hend), hopen⟩

end Queue

end SyncQueue
