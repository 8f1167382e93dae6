import SyncQueue.Proofs.Moves

/-!
# The state of the circuit breaker

The count of failures of a key, the end of its pause and its alert are written by separate
statements, and no table refers to another one. They agree all the same: a key whose count has
reached the threshold is paused and has one open alert, which tells the count and the pause; any
other key has neither.

* `Tables.BreakerAgrees`: the agreement, for all keys.
* `Tables.BreakerAgrees.withFailure`, `Tables.BreakerAgrees.withSuccess`: the two writes of the
  tracker keep it.
* `Fleet.breaker_consistent`: it holds in every fleet whose queues share a policy, and acknowledged
  alerts stay as they are.
-/

namespace SyncQueue

open Time (Instant)
variable {σ : Type} {policy : BreakerPolicy}

/-! ## One key -/

/-- The count, the last failure and the pause of a statistics row go together. -/
structure FailureStat.Fits (policy : BreakerPolicy) (stat : FailureStat) : Prop where
  count : 0 ≤ stat.consecutiveFailures
  lastFailure : stat.lastFailureAt.isSome ↔ 1 ≤ stat.consecutiveFailures
  pause : stat.pausedUntil.isSome ↔ policy.threshold ≤ stat.consecutiveFailures

/-- The messages of the open alerts that go with a statistics row. -/
def FailureStat.messages (policy : BreakerPolicy) (stat : FailureStat) : List String :=
  if policy.threshold ≤ stat.consecutiveFailures then
    [Breaker.openMessage stat.key stat.consecutiveFailures stat.pausedUntil]
  else []

namespace FailureStat

theorem fits_newStat (hpolicy : 1 ≤ policy.threshold) (key : SyncKey) (now : Instant) :
    (Queue.newStat key now).Fits policy := by
  refine ⟨Int.le_refl 0, ?_, ?_⟩ <;> simp [Queue.newStat]
  omega

theorem messages_newStat (hpolicy : 1 ≤ policy.threshold) (key : SyncKey) (now : Instant) :
    (Queue.newStat key now).messages policy = [] := by
  have : ¬policy.threshold ≤ 0 := by omega
  simp [messages, Queue.newStat, this]

theorem fits_afterSuccess (hpolicy : 1 ≤ policy.threshold) (stat : FailureStat) (now : Instant) :
    (stat.afterSuccess now).Fits policy := by
  have h := fits_newStat hpolicy stat.key now
  exact ⟨h.count, h.lastFailure, h.pause⟩

variable {stat : FailureStat}

/-- A failure is counted at least once. -/
theorem lt_failuresAfter (n : Int) (stat : FailureStat) :
    stat.consecutiveFailures < stat.failuresAfter n := by
  unfold failuresAfter Breaker.reconcile
  omega

/-- At the threshold a pause is running or begins; below it there was none before. -/
theorem Fits.afterFailure (h : stat.Fits policy) (n : Int) (now : Instant) :
    (stat.afterFailure policy n now).Fits policy := by
  have hcount := h.count
  have hlt := stat.lt_failuresAfter n
  refine ⟨?_, ?_, ?_⟩
  · change 0 ≤ stat.failuresAfter n
    omega
  · change true = true ↔ 1 ≤ stat.failuresAfter n
    simp only [true_iff]
    omega
  · change (if stat.opens policy n now then some (Breaker.pauseEnd policy now)
      else stat.pausedUntil).isSome ↔ policy.threshold ≤ stat.failuresAfter n
    have hpause := h.pause
    cases hopens : stat.opens policy n now with
    | true =>
      simp only [if_true, Option.isSome_some, true_iff]
      simp only [opens, Breaker.shouldPause, Bool.and_eq_true, decide_eq_true_eq] at hopens
      exact hopens.1
    | false =>
      simp only [Bool.false_eq_true, if_false]
      refine ⟨fun hsome => ?_, fun hreached => ?_⟩
      · have := hpause.1 hsome
        omega
      · simp only [opens, Breaker.shouldPause, Bool.and_eq_false_imp, decide_eq_true_eq] at hopens
        have hrunning := hopens hreached
        cases hpaused : stat.pausedUntil with
        | none => simp [hpaused] at hrunning
        | some until_ => rfl

end FailureStat

namespace Tables

/-- The messages of the open alerts of a key. -/
def openMessages (t : Tables) (key : SyncKey) : List String :=
  (t.alerts.filter (·.isOpenFor key)).map (·.message)

/-- The statistics row of a key, if there is one, and its open alerts go together. A key without a
row counts as one without failures. -/
def KeyAgrees (policy : BreakerPolicy) (t : Tables) (key : SyncKey) : Prop :=
  ∀ now, (t.statOrNew key now).Fits policy ∧
    t.openMessages key = (t.statOrNew key now).messages policy

/-- Statistics and alerts go together for all keys. -/
structure BreakerAgrees (policy : BreakerPolicy) (t : Tables) : Prop where
  keys : (t.stats.map (·.key)).Nodup
  agrees : ∀ key, t.KeyAgrees policy key

/-! ## Alerts -/

theorem isOpenFor_disjoint {key key' : SyncKey} (hne : key' ≠ key) {alert : Alert}
    (h : alert.isOpenFor key = true) {alert' : Alert} (hkey : alert'.key = alert.key) :
    alert'.isOpenFor key' = false := by
  simp only [Alert.isOpenFor, Bool.and_eq_true, decide_eq_true_eq] at h
  simp [Alert.isOpenFor, hkey, h.1, Ne.symm hne]

variable {t : Tables} {key key' : SyncKey} {now : Instant}

theorem openMessages_insertAlert (t : Tables) (key : SyncKey) (alert : Alert) :
    (t.insertAlert alert).openMessages key =
      t.openMessages key ++ if alert.isOpenFor key then [alert.message] else [] := by
  cases h : alert.isOpenFor key <;> simp [openMessages, insertAlert, h]

/-- After a key has been given a message, its only open alert carries it. -/
theorem openMessages_raiseAlert (h : (t.openMessages key).length ≤ 1) (message : String) :
    (t.raiseAlert key message now).openMessages key = [message] := by
  unfold raiseAlert
  split
  · rename_i hany
    obtain ⟨a, ha, hkey⟩ := List.any_eq_true.1 hany
    have hmem : a ∈ t.alerts.filter (·.isOpenFor key) := List.mem_filter.2 ⟨ha, hkey⟩
    obtain ⟨b, hb⟩ : ∃ b, t.alerts.filter (·.isOpenFor key) = [b] := by
      rw [openMessages, List.length_map] at h
      exact List.length_eq_one_iff.1 (Nat.le_antisymm h (List.length_pos_of_mem hmem))
    have hbopen : b ∈ t.alerts.filter (·.isOpenFor key) := by
      rw [hb]
      exact List.mem_singleton_self b
    have hkeep : ∀ a : Alert, a.isOpenFor key = true →
        (a.refreshed message now).isOpenFor key = true := fun _ ha => ha
    rw [openMessages, modifyOpenAlert, filter_modifyFirst_self hkeep, hb]
    simp [modifyFirst, (List.mem_filter.1 hbopen).2, Alert.refreshed]
  · rename_i hnone
    have hempty : t.alerts.filter (·.isOpenFor key) = [] :=
      List.filter_eq_nil_iff.2 fun a ha hkey => hnone (List.any_eq_true.2 ⟨a, ha, hkey⟩)
    rw [openMessages_insertAlert, openMessages, hempty]
    simp [Queue.newAlert, Alert.isOpenFor]

theorem openMessages_raiseAlert_of_ne (hne : key' ≠ key) (message : String) :
    (t.raiseAlert key message now).openMessages key' = t.openMessages key' := by
  unfold raiseAlert
  split
  · have hother : ∀ a : Alert, a.isOpenFor key = true →
        a.isOpenFor key' = false ∧ (a.refreshed message now).isOpenFor key' = false :=
      fun a ha => ⟨isOpenFor_disjoint hne ha rfl, isOpenFor_disjoint hne ha rfl⟩
    rw [openMessages, modifyOpenAlert, filter_modifyFirst_of_disjoint hother, openMessages]
  · rw [openMessages_insertAlert]
    simp [Queue.newAlert, Alert.isOpenFor, Ne.symm hne]

/-- A success acknowledges the open alerts of its key. -/
theorem openMessages_withSuccess : (t.withSuccess key now).openMessages key = [] := by
  have hclosed : ∀ a : Alert, a.isOpenFor key = true → (a.cleared key now).isOpenFor key = false :=
    fun _ _ => by simp [Alert.isOpenFor, Alert.cleared]
  rw [openMessages, withSuccess, modifyOpenAlerts, filter_modifyAll_self hclosed, List.map_nil]

theorem openMessages_withSuccess_of_ne (hne : key' ≠ key) :
    (t.withSuccess key now).openMessages key' = t.openMessages key' := by
  have hother : ∀ a : Alert, a.isOpenFor key = true →
      a.isOpenFor key' = false ∧ (a.cleared key now).isOpenFor key' = false :=
    fun a ha => ⟨isOpenFor_disjoint hne ha rfl, isOpenFor_disjoint hne ha rfl⟩
  rw [openMessages, withSuccess, modifyOpenAlerts, filter_modifyAll_of_disjoint hother]
  rfl

/-! ## Statistics rows -/

theorem statOrNew_of_none (h : t.stat? key = none) :
    t.statOrNew key now = Queue.newStat key now := by
  rw [statOrNew, h, Option.getD_none]

theorem statOrNew_of_some {stat : FailureStat} (h : t.stat? key = some stat) :
    t.statOrNew key now = stat := by
  rw [statOrNew, h, Option.getD_some]

@[simp] theorem stats_raiseAlert (t : Tables) (key : SyncKey) (message : String) (now : Instant) :
    (t.raiseAlert key message now).stats = t.stats := by
  unfold raiseAlert
  split <;> rfl

@[simp] theorem alerts_putStat (t : Tables) (stat : FailureStat) :
    (t.putStat stat).alerts = t.alerts := by
  unfold putStat
  split <;> rfl

theorem stats_withFailure (t : Tables) (policy : BreakerPolicy) (key : SyncKey) (n : Int)
    (now : Instant) : (t.withFailure policy key n now).stats =
      (t.putStat (t.statAfterFailure policy key n now)).stats := by
  unfold withFailure
  dsimp only
  split
  · exact stats_raiseAlert ..
  · rfl

theorem key_statAfterFailure (t : Tables) (policy : BreakerPolicy) (key : SyncKey) (n : Int)
    (now : Instant) : (t.statAfterFailure policy key n now).key = key :=
  t.key_statOrNew key now

/-- After a failure of a key its own row is the new one, and every other row is as before. -/
theorem stat?_withFailure (t : Tables) (policy : BreakerPolicy) (key : SyncKey) (n : Int)
    (now : Instant) (key' : SyncKey) : (t.withFailure policy key n now).stat? key' =
      if key' = key then some (t.statAfterFailure policy key n now) else t.stat? key' := by
  rw [stat?, stats_withFailure, ← stat?, stat?_putStat, key_statAfterFailure]

/-- After a success of a key its own row, if there is one, is reset, and every other row is as
before. -/
theorem stat?_withSuccess (t : Tables) (key : SyncKey) (now : Instant) (key' : SyncKey) :
    (t.withSuccess key now).stat? key' =
      if key' = key then (t.stat? key).map (·.afterSuccess now) else t.stat? key' :=
  stat?_modifyStat (f := (·.afterSuccess now)) (fun _ => rfl) key key'

theorem keys_putStat (h : (t.stats.map (·.key)).Nodup) (stat : FailureStat) :
    ((t.putStat stat).stats.map (·.key)).Nodup := by
  unfold putStat
  split
  · have hmap : (t.modifyStat stat.key fun _ => stat).stats.map (·.key) = t.stats.map (·.key) :=
      map_modifyFirst fun a ha => (by simpa using ha : a.key = stat.key).symm
    rwa [hmap]
  · rename_i hnone
    refine nodup_map_append h fun hmem => ?_
    obtain ⟨other, hother, heq⟩ := List.mem_map.1 hmem
    exact hnone (List.find?_isSome.2 ⟨other, hother, by simpa using heq⟩)

/-! ## What the tracker keeps -/

namespace BreakerAgrees

theorem empty (hpolicy : 1 ≤ policy.threshold) : Tables.empty.BreakerAgrees policy where
  keys := .nil
  agrees key now := ⟨FailureStat.fits_newStat hpolicy key now,
    (FailureStat.messages_newStat hpolicy key now).symm⟩

/-- Jobs and logs do not matter. -/
theorem congr {t' : Tables} (h : t.BreakerAgrees policy) (hstats : t'.stats = t.stats)
    (halerts : t'.alerts = t.alerts) : t'.BreakerAgrees policy where
  keys := hstats ▸ h.keys
  agrees key now := by
    have hkey := h.agrees key now
    rw [statOrNew, stat?, hstats, openMessages, halerts]
    exact hkey

/-- **A failure** of a key keeps the agreement: the new row is at the threshold or beyond exactly if
the key has been given a message, and before it there was one open alert at most. -/
theorem withFailure (h : t.BreakerAgrees policy) (key : SyncKey) (n : Int) (now : Instant) :
    (t.withFailure policy key n now).BreakerAgrees policy := by
  have hnewKey := t.key_statAfterFailure policy key n now
  have hstats := t.stats_withFailure policy key n now
  have hstat := t.stat?_withFailure policy key n now
  obtain ⟨hfits, hmessages⟩ := h.agrees key now
  refine ⟨?_, fun key' now' => ?_⟩
  · rw [hstats]
    exact keys_putStat h.keys _
  · by_cases hne : key' = key
    · subst hne
      rw [statOrNew, hstat, if_pos rfl, Option.getD_some]
      refine ⟨hfits.afterFailure n now, ?_⟩
      have hlt := (t.statOrNew key' now).lt_failuresAfter n
      have hold : (t.openMessages key').length ≤ 1 := by
        rw [hmessages, FailureStat.messages]
        split <;> simp
      unfold Tables.withFailure FailureStat.messages
      dsimp only
      rw [hnewKey]
      split
      · exact openMessages_raiseAlert (by rwa [openMessages, alerts_putStat]) _
      · -- below the threshold now, so below it before: no alert was open and none is raised
        rename_i hbelow
        have hbefore : ¬policy.threshold ≤ (t.statOrNew key' now).consecutiveFailures := by
          change ¬policy.threshold ≤ (t.statOrNew key' now).failuresAfter n at hbelow
          omega
        rw [openMessages, alerts_putStat, ← openMessages, hmessages, FailureStat.messages,
          if_neg hbefore]
    · have hother : (t.withFailure policy key n now).openMessages key' = t.openMessages key' := by
        unfold Tables.withFailure
        dsimp only
        split
        · rw [openMessages_raiseAlert_of_ne hne, openMessages, alerts_putStat, openMessages]
        · rw [openMessages, alerts_putStat, openMessages]
      rw [statOrNew, hstat, if_neg hne, hother]
      exact h.agrees key' now'

/-- **A success** of a key keeps the agreement: its row, if there is one, and its alerts are reset
together. -/
theorem withSuccess (hpolicy : 1 ≤ policy.threshold) (h : t.BreakerAgrees policy) (key : SyncKey)
    (now : Instant) : (t.withSuccess key now).BreakerAgrees policy := by
  have hid : ∀ stat : FailureStat, (stat.afterSuccess now).key = stat.key := fun _ => rfl
  have hstat := t.stat?_withSuccess key now
  refine ⟨?_, fun key' now' => ?_⟩
  · have hmap : (t.withSuccess key now).stats.map (·.key) = t.stats.map (·.key) :=
      map_modifyFirst fun a _ => hid a
    rw [hmap]
    exact h.keys
  · by_cases hne : key' = key
    · subst hne
      rw [statOrNew, hstat, if_pos rfl, openMessages_withSuccess]
      cases hold : t.stat? key' with
      | none =>
        exact ⟨FailureStat.fits_newStat hpolicy key' now',
          (FailureStat.messages_newStat hpolicy key' now').symm⟩
      | some stat =>
        exact ⟨FailureStat.fits_afterSuccess hpolicy stat now,
          (FailureStat.messages_newStat hpolicy stat.key now).symm⟩
    · rw [statOrNew, hstat, if_neg hne, openMessages_withSuccess_of_ne hne]
      exact h.agrees key' now'

end BreakerAgrees

end Tables

/-! ## Moves -/

namespace Fleet

/-- **Every move** leaves statistics and alerts as they are or writes them as the tracker does after
a success or a failure of a key. -/
theorem act_breaker (q : Queue σ) (f : Fleet σ) (m : Move) :
    ∃ t, t.stats = f.world.tables.stats ∧ t.alerts = f.world.tables.alerts ∧
      ((f.act q m).world.tables = t ∨
        (∃ key now, (f.act q m).world.tables = t.withSuccess key now) ∨
        ∃ key n now, (f.act q m).world.tables = t.withFailure q.breaker key n now) := by
  have hmoves := act_moves q f m
  generalize f.act q m = g at hmoves
  cases hmoves with
  | clock | requested | unserved | unadvanced => exact ⟨_, rfl, rfl, .inl rfl⟩
  | scheduled h =>
    have hleaves := Phase.leaves_of_steps h
    exact ⟨_, hleaves.stats, hleaves.alerts, .inl rfl⟩
  | served _ h => exact ⟨_, h.leaves.stats, h.leaves.alerts, .inl rfl⟩
  | claimed _ hw =>
    refine ⟨_, ?_, ?_, .inl rfl⟩ <;> rw [hw.tables] <;> rfl
  | unclaimed _ hw =>
    refine ⟨_, ?_, ?_, .inl rfl⟩ <;> rw [hw.tables]
  | @advanced n answer h stage w _ hstep =>
    obtain ⟨t, hstats, halerts, hw | ⟨now, hw⟩ | ⟨now, hw⟩⟩ := hstep.breaker
    · exact ⟨t, hstats, halerts, .inl hw⟩
    · exact ⟨t, hstats, halerts, .inr (.inl ⟨_, now, hw⟩)⟩
    · exact ⟨t, hstats, halerts, .inr (.inr ⟨_, _, now, hw⟩)⟩

end Fleet

namespace Tables

variable {t : Tables} {i : Nat} {alert : Alert}

theorem not_isOpenFor_of_acknowledged (h : alert.acknowledged) (key : SyncKey) :
    alert.isOpenFor key = false := by
  simp [Alert.isOpenFor, h]

theorem acknowledged_withSuccess (halert : t.alerts[i]? = some alert) (h : alert.acknowledged)
    (key : SyncKey) (now : Instant) : (t.withSuccess key now).alerts[i]? = some alert :=
  getElem?_modifyAll halert (not_isOpenFor_of_acknowledged h key)

theorem acknowledged_raiseAlert (halert : t.alerts[i]? = some alert) (h : alert.acknowledged)
    (key : SyncKey) (message : String) (now : Instant) :
    (t.raiseAlert key message now).alerts[i]? = some alert := by
  unfold raiseAlert
  split
  · exact getElem?_modifyFirst halert (not_isOpenFor_of_acknowledged h key)
  · exact (List.getElem?_append_left (List.getElem?_eq_some_iff.1 halert).1).trans halert

theorem acknowledged_withFailure (halert : t.alerts[i]? = some alert) (h : alert.acknowledged)
    (policy : BreakerPolicy) (key : SyncKey) (n : Int) (now : Instant) :
    (t.withFailure policy key n now).alerts[i]? = some alert := by
  have hput : (t.putStat (t.statAfterFailure policy key n now)).alerts[i]? = some alert := by
    rwa [alerts_putStat]
  unfold withFailure
  dsimp only
  split
  · exact acknowledged_raiseAlert hput h key _ now
  · exact hput

/-! ## Consequences for one key -/

/-- The count of a key has reached the threshold. -/
def HasReached (policy : BreakerPolicy) (t : Tables) (key : SyncKey) : Prop :=
  ∃ stat, t.stat? key = some stat ∧ policy.threshold ≤ stat.consecutiveFailures

/-- The row of a key has the end of a pause. -/
def HasPause (t : Tables) (key : SyncKey) : Prop :=
  ∃ stat, t.stat? key = some stat ∧ stat.pausedUntil.isSome

/-- A key without open messages has no open alert. -/
theorem hasOpenAlert_iff (t : Tables) (key : SyncKey) :
    t.hasOpenAlert key ↔ t.openMessages key ≠ [] := by
  rw [hasOpenAlert, openMessages, ne_eq, List.map_eq_nil_iff, List.filter_eq_nil_iff]
  simp

namespace BreakerAgrees

variable {key : SyncKey} {stat : FailureStat}

theorem of_stat? (h : t.BreakerAgrees policy) (hstat : t.stat? key = some stat) :
    stat.Fits policy ∧ t.openMessages key = stat.messages policy := by
  have hkey := h.agrees key stat.createdAt
  rwa [statOrNew_of_some hstat] at hkey

theorem hasPause_iff (h : t.BreakerAgrees policy) (key : SyncKey) :
    t.HasReached policy key ↔ t.HasPause key := by
  refine exists_congr fun stat => and_congr_right fun hstat => ?_
  exact (h.of_stat? hstat).1.pause.symm

theorem hasOpenAlert_iff (hpolicy : 1 ≤ policy.threshold) (h : t.BreakerAgrees policy)
    (key : SyncKey) : t.HasReached policy key ↔ t.hasOpenAlert key := by
  rw [Tables.hasOpenAlert_iff]
  cases hstat : t.stat? key with
  | none =>
    have hnone := (h.agrees key ⟨0⟩).2
    rw [statOrNew_of_none hstat, FailureStat.messages_newStat hpolicy] at hnone
    simp [HasReached, hstat, hnone]
  | some stat =>
    rw [(h.of_stat? hstat).2, FailureStat.messages]
    simp [HasReached, hstat]

/-- The one open alert of a key at the threshold tells its count and its pause. -/
theorem only_alert (h : t.BreakerAgrees policy) (hstat : t.stat? key = some stat)
    (hreached : policy.threshold ≤ stat.consecutiveFailures) :
    ∃ alert, t.alerts.filter (·.isOpenFor key) = [alert] ∧
      alert.message = Breaker.openMessage key stat.consecutiveFailures stat.pausedUntil := by
  have hmessages := (h.of_stat? hstat).2
  rw [FailureStat.messages, if_pos hreached, key_of_stat? hstat, openMessages] at hmessages
  obtain ⟨alert, halert, hmessage⟩ := List.map_eq_singleton_iff.1 hmessages
  exact ⟨alert, halert, hmessage⟩

end BreakerAgrees

end Tables

namespace Fleet

variable {f g : Fleet σ} {rule : Rule σ}

/-- All queues share a policy. -/
def Rule.sharing (policy : BreakerPolicy) : Rule σ := fun _ q _ => q.breaker = policy

theorem breakerAgrees_act (hpolicy : 1 ≤ policy.threshold)
    (h : f.world.tables.BreakerAgrees policy) {q : Queue σ} (hq : q.breaker = policy) (m : Move) :
    (f.act q m).world.tables.BreakerAgrees policy := by
  obtain ⟨t, hstats, halerts, hw | ⟨key, now, hw⟩ | ⟨key, n, now, hw⟩⟩ := act_breaker q f m
  · exact hw ▸ h.congr hstats halerts
  · exact hw ▸ (h.congr hstats halerts).withSuccess hpolicy key now
  · exact hw ▸ hq ▸ (h.congr hstats halerts).withFailure key n now

theorem Arises.breakerAgrees (hpolicy : 1 ≤ policy.threshold)
    (h : f.Arises (.sharing policy)) : f.world.tables.BreakerAgrees policy :=
  h.induction (P := fun f => f.world.tables.BreakerAgrees policy)
    (fun _ _ => Tables.BreakerAgrees.empty hpolicy)
    fun _ _ m hrule hf => breakerAgrees_act hpolicy hf hrule m

/-- An acknowledged alert is never changed and never opened again. -/
theorem Leads.acknowledged (h : f.Leads rule g) {i : Nat} {alert : Alert}
    (halert : f.world.tables.alerts[i]? = some alert) (hack : alert.acknowledged) :
    g.world.tables.alerts[i]? = some alert := by
  refine h.induction (P := fun g => g.world.tables.alerts[i]? = some alert)
    (fun f q m _ hf => ?_) halert
  obtain ⟨t, -, halerts, hw | ⟨key, now, hw⟩ | ⟨key, n, now, hw⟩⟩ := act_breaker q f m <;>
    rw [hw] <;> rw [← halerts] at hf
  · exact hf
  · exact Tables.acknowledged_withSuccess hf hack key now
  · exact Tables.acknowledged_withFailure hf hack q.breaker key n now

/-- **Consistency of the circuit breaker.** In every fleet whose queues share a policy with a
positive threshold, a key has reached the threshold exactly if its row has the end of a pause, and
exactly if it has an open alert; then this is the only one, and its message tells the count and the
pause. The time of the last failure is there exactly if failures are counted. Acknowledged alerts
stay as they are in every fleet that comes later. -/
theorem breaker_consistent (hpolicy : 1 ≤ policy.threshold) (h : f.Arises (.sharing policy)) :
    (f.world.tables.stats.map (·.key)).Nodup ∧
      (∀ key, (f.world.tables.HasReached policy key ↔ f.world.tables.HasPause key) ∧
        (f.world.tables.HasReached policy key ↔ f.world.tables.hasOpenAlert key)) ∧
      (∀ key stat, f.world.tables.stat? key = some stat →
        (policy.threshold ≤ stat.consecutiveFailures →
          ∃ alert, f.world.tables.alerts.filter (·.isOpenFor key) = [alert] ∧
            alert.message =
              Breaker.openMessage key stat.consecutiveFailures stat.pausedUntil) ∧
        (stat.lastFailureAt.isSome ↔ 1 ≤ stat.consecutiveFailures)) ∧
      ∀ (rule : Rule σ) (g : Fleet σ), f.Leads rule g → ∀ (i : Nat) (alert : Alert),
        f.world.tables.alerts[i]? = some alert → alert.acknowledged →
        g.world.tables.alerts[i]? = some alert := by
  have hagrees := h.breakerAgrees hpolicy
  refine ⟨hagrees.keys, fun key => ⟨hagrees.hasPause_iff key, hagrees.hasOpenAlert_iff hpolicy key⟩,
    fun key stat hstat => ⟨hagrees.only_alert hstat, (hagrees.of_stat? hstat).1.lastFailure⟩,
    fun _ _ hleads _ _ halert hack => hleads.acknowledged halert hack⟩

/-- A job fails once, which is enough to open the breaker of the small queue. -/
def tripped : Fleet Unit :=
  plain
    [.schedule 3 (.plain none), .claim, .advance 0 (.error "refused"),
      .advance 0 (.error "refused"), .advance 0 (.error "refused")]

/-- The failed job has raised an alert, and the key is paused. -/
theorem breaker_consistent_tripped :
    tripped.world.tables.hasOpenAlert ⟨⟨1⟩, ⟨2⟩⟩ ∧ tripped.world.tables.HasPause ⟨⟨1⟩, ⟨2⟩⟩ := by
  have hopen : tripped.world.tables.hasOpenAlert ⟨⟨1⟩, ⟨2⟩⟩ := by decide +kernel
  have harises : tripped.Arises (.sharing ⟨1, .ofMillis 1000⟩) := plain_arises (fun _ _ => rfl) _
  have hagree := (breaker_consistent (by decide) harises).2.1 ⟨⟨1⟩, ⟨2⟩⟩
  exact ⟨hopen, hagree.1.1 (hagree.2.2 hopen)⟩

end Fleet

end SyncQueue
