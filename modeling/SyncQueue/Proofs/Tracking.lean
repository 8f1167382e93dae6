import Mathlib.Tactic.Set
import SyncQueue.Proofs.Meets

/-!
# What the tracker writes

The statements of `Queue.recordFailure` and `Queue.recordSuccess`, put together into one change of
the tables each: `Tables.withFailure` and `Tables.withSuccess`.

* `recordFailure_meets`: the four statements of a failure leave exactly one statistics row for the
  key, `FailureStat.afterFailure` of the one before, and the alert that goes with it.
* `recordSuccess_meets`: a success resets that row and acknowledges the open alerts of the key.
-/

namespace SyncQueue

open Time (Instant)

variable {σ : Type}

/-! ## The rows that are written -/

namespace FailureStat

/-- A row with one more failure, not yet compared with the retry count of the job. -/
def counted (now : Instant) (stat : FailureStat) : FailureStat :=
  { stat with
    consecutiveFailures := stat.consecutiveFailures + 1
    lastFailureAt := some now
    updatedAt := now }

/-- The count after a failure of a job with a retry count. -/
def failuresAfter (newRetryCount : Int) (stat : FailureStat) : Int :=
  Breaker.reconcile (stat.consecutiveFailures + 1) newRetryCount

/-- A failure of a job with a retry count begins a new pause. -/
def opens (policy : BreakerPolicy) (newRetryCount : Int) (now : Instant) (stat : FailureStat) :
    Bool :=
  Breaker.shouldPause policy (stat.failuresAfter newRetryCount) stat.pausedUntil now

/-- The row after a failure of a job with a retry count. -/
def afterFailure (policy : BreakerPolicy) (newRetryCount : Int) (now : Instant)
    (stat : FailureStat) : FailureStat :=
  { stat with
    consecutiveFailures := stat.failuresAfter newRetryCount
    lastFailureAt := some now
    pausedUntil :=
      if stat.opens policy newRetryCount now then some (Breaker.pauseEnd policy now)
      else stat.pausedUntil
    updatedAt := now }

/-- The row after a success. -/
def afterSuccess (now : Instant) (stat : FailureStat) : FailureStat :=
  { stat with
    consecutiveFailures := 0
    lastFailureAt := none
    pausedUntil := none
    updatedAt := now }

end FailureStat

namespace Alert

/-- An alert with a new message. -/
def refreshed (message : String) (now : Instant) (alert : Alert) : Alert :=
  { alert with message, updatedAt := now }

/-- An alert of a key that has been acknowledged after a success. -/
def cleared (key : SyncKey) (now : Instant) (alert : Alert) : Alert :=
  { alert with acknowledged := true, message := Breaker.clearedMessage key, updatedAt := now }

end Alert

namespace Tables

/-- Write the statistics row of a key. -/
def putStat (t : Tables) (stat : FailureStat) : Tables :=
  if (t.stat? stat.key).isSome then t.modifyStat stat.key fun _ => stat else t.insertStat stat

/-- Give the open alert of a key a message, or raise one with it. -/
def raiseAlert (t : Tables) (key : SyncKey) (message : String) (now : Instant) : Tables :=
  if t.hasOpenAlert key then t.modifyOpenAlert key (·.refreshed message now)
  else t.insertAlert (Queue.newAlert key message now)

/-- The statistics row of a key, or the one that it begins with. -/
def statOrNew (t : Tables) (key : SyncKey) (now : Instant) : FailureStat :=
  (t.stat? key).getD (Queue.newStat key now)

/-- The statistics row of a key after a failure. -/
def statAfterFailure (t : Tables) (policy : BreakerPolicy) (key : SyncKey) (newRetryCount : Int)
    (now : Instant) : FailureStat :=
  (t.statOrNew key now).afterFailure policy newRetryCount now

/-- The tables after a failure of a key. -/
def withFailure (t : Tables) (policy : BreakerPolicy) (key : SyncKey) (newRetryCount : Int)
    (now : Instant) : Tables :=
  let stat := t.statAfterFailure policy key newRetryCount now
  if policy.threshold ≤ stat.consecutiveFailures then
    (t.putStat stat).raiseAlert key
      (Breaker.openMessage key stat.consecutiveFailures stat.pausedUntil) now
  else t.putStat stat

/-- The tables after a success of a key. -/
def withSuccess (t : Tables) (key : SyncKey) (now : Instant) : Tables :=
  (t.modifyStat key (·.afterSuccess now)).modifyOpenAlerts key (·.cleared key now)

theorem key_statOrNew (t : Tables) (key : SyncKey) (now : Instant) :
    (t.statOrNew key now).key = key := by
  unfold statOrNew
  cases hstat : t.stat? key with
  | none => rfl
  | some stat => exact key_of_stat? hstat

/-! ## One row from several statements -/

/-- Seeding a row and changing it writes the changed row. -/
theorem modifyStat_seed {key : SyncKey} {now : Instant} {f : FailureStat → FailureStat}
    (hf : ∀ stat, (f stat).key = stat.key) (t : Tables) :
    ((if (t.stat? key).isSome then t else t.insertStat (Queue.newStat key now)).modifyStat key f)
      = t.putStat (f (t.statOrNew key now)) := by
  have hkey : (f (t.statOrNew key now)).key = key := (hf _).trans (t.key_statOrNew key now)
  unfold putStat
  rw [hkey]
  unfold statOrNew
  cases hstat : t.stat? key with
  | none =>
    have happend := modifyFirst_append_of_find?_eq_none (f := f)
      (l := [Queue.newStat key now]) hstat
    simp only [Option.isSome_none, Bool.false_eq_true, if_false, modifyStat, insertStat,
      Option.getD_none] at happend ⊢
    rw [happend]
    simp [modifyFirst, Queue.newStat]
  | some stat =>
    simp only [Option.isSome_some, if_true, modifyStat, Option.getD_some]
    rw [modifyFirst_congr (g := fun _ => f stat) hstat rfl]

theorem stat?_putStat (t : Tables) (stat : FailureStat) (key : SyncKey) :
    (t.putStat stat).stat? key = if key = stat.key then some stat else t.stat? key := by
  unfold putStat
  cases hstat : t.stat? stat.key with
  | none =>
    rw [if_neg (by simp), stat?_insertStat]
    by_cases h : key = stat.key
    · simp [h, hstat]
    · simp [h, Ne.symm h]
  | some old =>
    rw [Option.isSome_some, if_pos rfl]
    by_cases h : key = stat.key
    · rw [if_pos h, h]
      refine (find?_modifyFirst_self fun a _ => by simp).trans ?_
      rw [show t.stats.find? (·.key = stat.key) = some old from hstat, Option.map_some]
    · rw [if_neg h]
      refine find?_modifyFirst_of_disjoint fun a ha => ?_
      have hkey : a.key = stat.key := by simpa using ha
      simp [hkey, Ne.symm h]

/-- Writing a statistics row and then changing it writes the changed row. -/
theorem modifyStat_putStat {stat : FailureStat} {f : FailureStat → FailureStat}
    (hf : ∀ stat, (f stat).key = stat.key) (t : Tables) :
    (t.putStat stat).modifyStat stat.key f = t.putStat (f stat) := by
  unfold putStat
  rw [hf]
  cases hstat : t.stat? stat.key with
  | none =>
    have happend := modifyFirst_append_of_find?_eq_none (f := f) (l := [stat]) hstat
    simp only [Option.isSome_none, Bool.false_eq_true, if_false, modifyStat, insertStat]
      at happend ⊢
    rw [happend]
    simp [modifyFirst]
  | some old =>
    simp only [Option.isSome_some, if_true, modifyStat]
    rw [modifyFirst_modifyFirst fun a _ => by simp]
    rfl

end Tables

/-! ## The statements of the tracker -/

namespace Queue

theorem failureStat_meets (q : Queue σ) (key : SyncKey) (w : World σ) :
    Meets (q.failureStat key) w
      (fun stat w' => stat = w.tables.stat? key ∧ w.Stays w' ∧
        ∀ s, w.tables.stat? key = some s → s.isReadable)
      fun _ w' => w.Stays w' ∧
        (q.IsFallible ∨ ∃ s, w.tables.stat? key = some s ∧ s.isReadable = false) := by
  refine Meets.within ?_
  refine (q.read_meets [.stats] (·.stat? key) w).bind (fun stat w₁ h₁ => ?_)
    fun _ _ h => ⟨h.1, .inl h.2⟩
  obtain ⟨rfl, h₁⟩ := h₁
  unfold checkStats
  cases hstat : w.tables.stat? key with
  | none => exact ⟨rfl, h₁, fun _ h => by cases h⟩
  | some s =>
    cases hread : s.isReadable with
    | true =>
      simp only [Option.toList_some, List.all_cons, hread, List.all_nil, Bool.and_self, if_true]
      exact ⟨rfl, h₁, fun _ h => by cases h; exact hread⟩
    | false =>
      simp only [Option.toList_some, List.all_cons, hread, List.all_nil, Bool.false_and,
        Bool.false_eq_true, if_false]
      exact ⟨h₁, .inr ⟨s, rfl, hread⟩⟩

/-- The alert of a key is raised by one look and one write. -/
theorem raiseAlert_meets (q : Queue σ) (key : SyncKey) (message : String) (now : Instant)
    (w : World σ) :
    Meets (q.raiseAlert key message now) w
      (fun _ w' => w.Becomes (w.tables.raiseAlert key message now) w.events w')
      fun _ w' => w.Stays w' ∧ q.IsFallible := by
  have hwrite (context : String) (kind : StatementKind) (f : Tables → Tables) (w₁ : World σ)
      (h₁ : w.Stays w₁) :
      Meets (within context (q.write kind .alerts (fun _ => true) f)) w₁
        (fun _ w' => w.Becomes (f w.tables) w.events w')
        fun _ w' => w.Stays w' ∧ q.IsFallible := by
    refine (q.write_meets kind .alerts (fun _ => true) f w₁).within.mono (fun _ w₂ h₂ => ?_)
      fun _ w₂ h₂ => ⟨h₁.trans_stays h₂.1, h₂.2⟩
    rw [h₁.tables] at h₂
    exact World.Becomes.step h₁ h₂
  unfold raiseAlert
  refine (q.read_meets [.alerts] (·.hasOpenAlert key) w).within.bind (fun isOpen w₁ h₁ => ?_)
    fun _ _ h => h
  obtain ⟨rfl, h₁⟩ := h₁
  unfold Tables.raiseAlert
  split
  · exact hwrite _ _ _ w₁ h₁
  · exact hwrite _ _ _ w₁ h₁

/-- The count of a key that has one more failure can still be read back. -/
def CanCount (t : Tables) (key : SyncKey) (now : Instant) : Prop :=
  ((t.statOrNew key now).counted now).isReadable

/-- A failure that neither raises the count further nor begins a pause only counts. -/
theorem afterFailure_eq_counted {policy : BreakerPolicy} {n : Int} {now : Instant}
    {stat : FailureStat} (hcount : stat.failuresAfter n = stat.consecutiveFailures + 1)
    (hopens : stat.opens policy n now = false) :
    stat.afterFailure policy n now = stat.counted now := by
  simp [FailureStat.afterFailure, FailureStat.counted, hcount, hopens]

/-- **A failure of a key** that is recorded writes the row of the key and its alert, and answers
with what the row now says. -/
theorem recordFailure_meets (q : Queue σ) (policy : BreakerPolicy) (key : SyncKey) (n : Int)
    (now : Instant) (w : World σ) :
    Meets (q.recordFailure policy key n now) w
      (fun s w' => s = ⟨(w.tables.statAfterFailure policy key n now).consecutiveFailures,
          (w.tables.statAfterFailure policy key n now).pausedUntil,
          (w.tables.statOrNew key now).opens policy n now⟩ ∧
        CanCount w.tables key now ∧
        w.Becomes (w.tables.withFailure policy key n now) w.events w')
      fun _ w' => w.Becomes w'.tables w.events w' ∧
        (q.IsFallible ∨ ¬ CanCount w.tables key now) := by
  have hkey := w.tables.key_statOrNew key now
  unfold Tables.withFailure Tables.statAfterFailure
  set old := w.tables.statOrNew key now with hold
  set new := old.afterFailure policy n now with hnew
  have hcountedKey : (old.counted now).key = key := hkey
  have hnewKey : new.key = key := hkey
  unfold recordFailure
  refine (q.write_meets _ _ _ _ w).within.bind (fun _ w₁ h₁ => ?_)
    fun _ _ h => ⟨h.1.writes, .inl h.2⟩
  refine (q.write_meets _ _ _ _ w₁).within.bind (fun _ w₂ h₂ => ?_)
    fun _ _ h => ⟨(h₁.step h.1).writes, .inl h.2⟩
  replace h₂ : w.Becomes (w.tables.putStat (old.counted now)) w.events w₂ := by
    rw [← Tables.modifyStat_seed (f := (·.counted now)) fun _ => rfl, ← h₁.tables]
    exact h₁.step h₂
  have hfound : w₂.tables.stat? key = some (old.counted now) := by
    rw [h₂.tables, Tables.stat?_putStat, if_pos hcountedKey.symm]
  refine (q.failureStat_meets key w₂).bind (fun found w₃ h₃ => ?_) fun _ _ h => ?_
  · obtain ⟨rfl, h₃, hread⟩ := h₃
    have hcan : CanCount w.tables key now := hread _ hfound
    replace h₃ := h₂.step h₃
    rw [hfound]
    dsimp only
    have hfailures : Breaker.reconcile (old.counted now).consecutiveFailures n =
      new.consecutiveFailures := rfl
    have hopens : Breaker.shouldPause policy new.consecutiveFailures
      (old.counted now).pausedUntil now = old.opens policy n now := rfl
    have hpaused : (if old.opens policy n now then some (Breaker.pauseEnd policy now)
      else (old.counted now).pausedUntil) = new.pausedUntil := rfl
    simp only [hfailures, hopens, hpaused]
    -- the row is written again only where counting alone does not give it
    refine Meets.onlyIf (M := fun _ w' => w.Becomes (w.tables.putStat new) w.events w')
      (F := fun _ w' => w.Becomes w'.tables w.events w' ∧ q.IsFallible)
      (fun _ => ?_) (fun hsame => ?_) (fun w₄ h₄ => ?_) fun _ _ h => ⟨h.1, .inl h.2⟩
    · refine (q.write_meets _ _ _ _ w₃).within.mono (fun _ w₄ h₄ => ?_)
        fun _ w₄ h₄ => ⟨(h₃.step h₄.1).writes, h₄.2⟩
      have hrow : w₃.tables = w.tables.putStat (old.counted now) := h₃.tables.trans h₂.tables
      rw [hrow, ← hcountedKey, Tables.modifyStat_putStat (by intro; rfl)] at h₄
      exact h₃.step h₄
    · have hsame' : new.consecutiveFailures = (old.counted now).consecutiveFailures ∧
          old.opens policy n now = false := by simpa using hsame
      rw [hnew, afterFailure_eq_counted hsame'.1 hsame'.2, ← h₂.tables]
      exact h₃
    refine Meets.onlyIf (M := fun _ w' => w.Becomes (w.tables.putStat new) w.events w')
      (F := fun _ _ => False) (fun _ => Meets.log (h₄.trans_stays (w₄.stays_logged _)))
      (fun _ => h₄) (fun w₅ h₅ => ?_) fun _ _ h => h.elim
    split
    · refine (q.raiseAlert_meets key _ now w₅).bind (fun _ w₆ h₆ => ?_)
        fun _ _ h => ⟨(h₅.step h.1).writes, .inl h.2⟩
      rw [h₅.tables] at h₆
      replace h₆ := h₅.step h₆
      split
      · exact Meets.bind_total (Meets.log (h₆.trans_stays (w₆.stays_logged _)))
          fun _ _ h => ⟨rfl, hcan, h⟩
      · exact ⟨rfl, hcan, h₆⟩
    · exact ⟨rfl, hcan, h₅⟩
  · obtain ⟨h, hq | ⟨s, hs, hread⟩⟩ := h
    · exact ⟨(h₂.step h).writes, .inl hq⟩
    · obtain rfl : old.counted now = s := Option.some.inj (hfound.symm.trans hs)
      exact ⟨(h₂.step h).writes, .inr fun hcan => by
        rw [CanCount, ← hold, hread] at hcan; cases hcan⟩

/-- **A success of a key** that is recorded resets the row of the key and acknowledges its open
alerts; it answers with their number. -/
theorem recordSuccess_meets (q : Queue σ) (key : SyncKey) (now : Instant) (w : World σ) :
    Meets (q.recordSuccess key now) w
      (fun cleared w' => cleared = (w.tables.alerts.filter (·.isOpenFor key)).length ∧
        w.Becomes (w.tables.withSuccess key now) w.events w')
      fun _ w' => w.Becomes w'.tables w.events w' ∧ q.IsFallible := by
  unfold recordSuccess
  refine (q.write_meets _ _ _ _ w).within.bind (fun _ w₁ h₁ => ?_)
    fun _ _ h => ⟨h.1.writes, h.2⟩
  have halerts : w₁.tables.alerts = w.tables.alerts := by rw [h₁.tables]; rfl
  refine Meets.bind (P := fun cleared w' =>
      cleared = (w.tables.alerts.filter (·.isOpenFor key)).length ∧
        w.Becomes (w.tables.withSuccess key now) w.events w')
    ((Meets.within (C := q.IsFallible) ?_).mono (fun _ _ h => h)
      fun _ _ h => ⟨(h₁.step h.1).writes, h.2⟩)
    (fun cleared w₂ h₂ => ?_) fun _ _ h => h
  · refine (q.write_meets _ _ _ _ w₁).bind (fun _ w₂ h₂ => ?_) fun _ _ h => h
    rw [h₁.tables] at h₂
    exact ⟨by rw [halerts], h₁.step h₂⟩
  · dsimp only
    split
    · exact Meets.bind_total (Meets.log ⟨h₂.1, h₂.2.trans_stays (w₂.stays_logged _)⟩)
        fun _ _ h => h
    · exact h₂

end Queue

end SyncQueue
