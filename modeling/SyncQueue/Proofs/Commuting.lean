import SyncQueue.Proofs.BreakerState
import SyncQueue.Proofs.Processing

/-!
# Attempts for different keys

Attempts of jobs whose keys differ do not see each other, even where the keys have their connector
or their pair in common. What an attempt writes outside its job is about its key: it is determined
by the rows of the key, and it leaves the rows of all other keys alone. So two attempts can be made
in either order.

* `Tables.Concerns`: a change of the tables is about one key.
* `Tables.Concerns.comm`: two changes about different keys leave the same rows for every key.
* `Errand.runs_commute`: two attempts for different keys, in both orders.
-/

namespace SyncQueue

open Time (Instant)

variable {σ : Type}

namespace Tables

/-! ## Rows of a key -/

/-- The rows of a key, apart from its jobs. -/
def tracked (t : Tables) (key : SyncKey) : Tables where
  jobs := []
  logs := t.logs.filter (·.key = key)
  stats := t.stats.filter (·.key = key)
  alerts := t.alerts.filter (·.key = key)

theorem tracked_tracked (t : Tables) (key : SyncKey) :
    (t.tracked key).tracked key = t.tracked key := by
  simp [tracked, List.filter_filter]

theorem stat?_tracked (t : Tables) (key : SyncKey) : (t.tracked key).stat? key = t.stat? key := by
  simp [stat?, tracked, List.find?_filter]

theorem statAfterFailure_tracked (t : Tables) (policy : BreakerPolicy) (key : SyncKey) (n : Int)
    (now : Instant) :
    (t.tracked key).statAfterFailure policy key n now = t.statAfterFailure policy key n now := by
  rw [statAfterFailure, statOrNew, stat?_tracked]
  rfl

theorem hasOpenAlert_tracked (t : Tables) (key : SyncKey) :
    (t.tracked key).hasOpenAlert key = t.hasOpenAlert key := by
  rw [hasOpenAlert, tracked, List.any_filter, hasOpenAlert]
  refine congrArg (t.alerts.any ·) (funext fun alert => ?_)
  cases hopen : alert.isOpenFor key with
  | false => simp
  | true => simp_all [Alert.isOpenFor]

section OpenAlerts

variable {f : Alert → Alert} {key key' : SyncKey} (hf : ∀ alert, (f alert).key = alert.key)

include hf

/-- An open alert of a key stays an alert of the key. -/
theorem key_of_isOpenFor (alert : Alert) (h : alert.isOpenFor key = true) :
    decide (alert.key = key) = true ∧ decide ((f alert).key = key) = true := by
  rw [hf]
  simp_all [Alert.isOpenFor]

/-- An open alert of a key is not an alert of another key. -/
theorem key_ne_of_isOpenFor (hne : key' ≠ key) (alert : Alert) (h : alert.isOpenFor key = true) :
    decide (alert.key = key') = false ∧ decide ((f alert).key = key') = false := by
  have hkey : alert.key = key := by simpa using (key_of_isOpenFor hf alert h).1
  simp [hf, hkey, Ne.symm hne]

end OpenAlerts

/-- A change of the tables is about a key: what it leaves for the key depends on the rows of the key
only, and the rows of other keys stay. -/
structure Concerns (key : SyncKey) (change : Tables → Tables) : Prop where
  own : ∀ t, (change t).tracked key = (change (t.tracked key)).tracked key
  others : ∀ t key', key' ≠ key → (change t).tracked key' = t.tracked key'

namespace Concerns

variable {key key' : SyncKey} {f g : Tables → Tables}

/-- **Changes about different keys** leave the same rows for each key in both orders. -/
theorem comm (hf : Concerns key f) (hg : Concerns key' g) (hne : key ≠ key') (t : Tables)
    (k : SyncKey) : (g (f t)).tracked k = (f (g t)).tracked k := by
  by_cases hk : k = key
  · subst hk
    calc (g (f t)).tracked k = (f t).tracked k := hg.others _ _ hne
      _ = (f (t.tracked k)).tracked k := hf.own t
      _ = (f ((g t).tracked k)).tracked k := by rw [hg.others t k hne]
      _ = (f (g t)).tracked k := (hf.own _).symm
  by_cases hk' : k = key'
  · subst hk'
    calc (g (f t)).tracked k = (g ((f t).tracked k)).tracked k := hg.own _
      _ = (g (t.tracked k)).tracked k := by rw [hf.others t k hk]
      _ = (g t).tracked k := (hg.own t).symm
      _ = (f (g t)).tracked k := (hf.others _ _ hk).symm
  · rw [hg.others _ _ hk', hf.others _ _ hk, hf.others _ _ hk, hg.others _ _ hk']

/-- One change about a key after another. -/
theorem comp (hf : Concerns key f) (hg : Concerns key g) : Concerns key fun t => g (f t) where
  own t := by rw [hg.own (f t), hf.own t, ← hg.own]
  others t key' hne := by rw [hg.others _ _ hne, hf.others _ _ hne]

/-- A change that depends on the rows of its key. -/
theorem dependent (change : Tables → Tables → Tables)
    (hdepends : ∀ t, change (t.tracked key) = change t) (h : ∀ s, Concerns key (change s)) :
    Concerns key fun t => change t t where
  own t := by rw [(h t).own t, hdepends]
  others t := (h t).others t

/-- The rows of jobs do not matter. -/
theorem modifyJob (key : SyncKey) (id : Uuid) (f : Job → Job) :
    Concerns key (·.modifyJob id f) where
  own t := (t.tracked_tracked key).symm
  others _ _ _ := rfl

theorem appendLog (log : AttemptLog) : Concerns log.key (·.appendLog log) where
  own t := by simp [tracked, Tables.appendLog, List.filter_filter]
  others t key' hne := by simp [tracked, Tables.appendLog, Ne.symm hne]

theorem modifyStat {key : SyncKey} {f : FailureStat → FailureStat}
    (hf : ∀ stat, stat.key = key → (f stat).key = key) : Concerns key (·.modifyStat key f) where
  own t := by
    have hkeep (stat : FailureStat) (h : decide (stat.key = key) = true) :
        decide ((f stat).key = key) = true := by simpa using hf stat (by simpa using h)
    simp [tracked, Tables.modifyStat, List.filter_filter, filter_modifyFirst_self hkeep]
  others t key' hne := by
    have hother (stat : FailureStat) (h : decide (stat.key = key) = true) :
        decide (stat.key = key') = false ∧ decide ((f stat).key = key') = false := by
      have hkey : stat.key = key := by simpa using h
      simp [hf stat hkey, hkey, Ne.symm hne]
    simp only [tracked, Tables.modifyStat, filter_modifyFirst_of_disjoint hother]

theorem insertStat (stat : FailureStat) : Concerns stat.key (·.insertStat stat) where
  own t := by simp [tracked, Tables.insertStat, List.filter_filter]
  others t key' hne := by simp [tracked, Tables.insertStat, Ne.symm hne]

theorem putStat (stat : FailureStat) : Concerns stat.key (·.putStat stat) := by
  refine dependent (fun s t => if (s.stat? stat.key).isSome
    then t.modifyStat stat.key fun _ => stat else t.insertStat stat) (fun t => ?_) fun s => ?_
  · rw [stat?_tracked]
  · split
    · exact modifyStat fun _ _ => rfl
    · exact insertStat stat

theorem modifyOpenAlert {f : Alert → Alert} (hf : ∀ alert, (f alert).key = alert.key)
    (key : SyncKey) : Concerns key (·.modifyOpenAlert key f) where
  own t := by
    simp [tracked, Tables.modifyOpenAlert, List.filter_filter,
      filter_modifyFirst_of_imp (key_of_isOpenFor hf)]
  others t key' hne := by
    simp only [tracked, Tables.modifyOpenAlert,
      filter_modifyFirst_of_disjoint (key_ne_of_isOpenFor hf hne)]

theorem modifyOpenAlerts {f : Alert → Alert} (hf : ∀ alert, (f alert).key = alert.key)
    (key : SyncKey) : Concerns key (·.modifyOpenAlerts key f) where
  own t := by
    simp [tracked, Tables.modifyOpenAlerts, List.filter_filter,
      filter_modifyAll_of_imp (key_of_isOpenFor hf)]
  others t key' hne := by
    simp only [tracked, Tables.modifyOpenAlerts,
      filter_modifyAll_of_disjoint (key_ne_of_isOpenFor hf hne)]

theorem insertAlert (alert : Alert) : Concerns alert.key (·.insertAlert alert) where
  own t := by simp [tracked, Tables.insertAlert, List.filter_filter]
  others t key' hne := by simp [tracked, Tables.insertAlert, Ne.symm hne]

theorem raiseAlert (key : SyncKey) (message : String) (now : Instant) :
    Concerns key (·.raiseAlert key message now) := by
  refine dependent (fun s t => if s.hasOpenAlert key
    then t.modifyOpenAlert key (·.refreshed message now)
    else t.insertAlert (Queue.newAlert key message now)) (fun t => ?_) fun s => ?_
  · rw [hasOpenAlert_tracked]
  · split
    · exact modifyOpenAlert (f := (·.refreshed message now)) (fun _ => rfl) key
    · exact insertAlert (Queue.newAlert key message now)

/-- **A failure** is about its key. -/
theorem withFailure (policy : BreakerPolicy) (key : SyncKey) (n : Int) (now : Instant) :
    Concerns key (·.withFailure policy key n now) := by
  refine dependent (fun s t =>
    let stat := s.statAfterFailure policy key n now
    if policy.threshold ≤ stat.consecutiveFailures then
      (t.putStat stat).raiseAlert key
        (Breaker.openMessage key stat.consecutiveFailures stat.pausedUntil) now
    else t.putStat stat) (fun t => ?_) fun s => ?_
  · rw [statAfterFailure_tracked]
  · have hput : Concerns key (·.putStat (s.statAfterFailure policy key n now)) := by
      have h := putStat (s.statAfterFailure policy key n now)
      rwa [key_statAfterFailure] at h
    dsimp only
    split
    · exact hput.comp (raiseAlert key _ now)
    · exact hput

/-- **A success** is about its key. -/
theorem withSuccess (key : SyncKey) (now : Instant) : Concerns key (·.withSuccess key now) :=
  (modifyStat (f := (·.afterSuccess now)) fun _ h => h).comp
    (modifyOpenAlerts (f := (·.cleared key now)) (fun _ => rfl) key)

end Concerns

end Tables

/-! ## Attempts with given outcomes -/

/-- An attempt whose outcome is given: the claimed job, the answer of the executor, the times of the
call and of the answer, and the random word for the delay. -/
structure Errand where
  job : Job
  answer : Answer
  startedAt : Instant
  finishedAt : Instant
  word : Nat

namespace Errand

/-- The result that the attempt counts as. -/
def result (e : Errand) : ExecutionResult := e.answer.toResult

/-- The executor that gives the answer at its time. -/
def executor (e : Errand) : Executor σ := fun _ w => (e.answer, { w with now := e.finishedAt })

/-- Make the attempt, at its times and with its random word. -/
def run (e : Errand) (q : Queue σ) (consumer : Nat) : QueueM σ JobStatus := fun w =>
  Queue.processJob { q with word := fun _ => e.word } consumer e.executor e.job
    { w with now := e.startedAt }

/-- The tables after the attempt. -/
def written (e : Errand) (q : Queue σ) (t : Tables) : Tables :=
  if e.result.isFailure then
    t.withFailedAttempt q.breaker e.job (q.dueAfter e.job e.finishedAt e.word) e.result e.startedAt
      e.finishedAt
  else t.withCompletion e.job e.result e.startedAt e.finishedAt

/-- The row of the job after the attempt. -/
def rewritten (e : Errand) (q : Queue σ) : Job → Job :=
  if e.result.isFailure then
    e.job.afterFailure (q.dueAfter e.job e.finishedAt e.word) (e.result.errorSummary.getD "")
      e.finishedAt
  else (·.completed e.finishedAt)

/-- The attempt is of a job that is there, and the count of failures of its key can be raised if it
fails. -/
def IsAdmitted (e : Errand) (t : Tables) : Prop :=
  (∃ row, t.job? e.job.id = some row ∧ row.key = e.job.key) ∧
    (e.result.isFailure → Queue.CanCount t e.job.key e.finishedAt)

variable {q : Queue σ} {a b e : Errand} {t : Tables} {w : World σ}

theorem concerns_written (e : Errand) (q : Queue σ) :
    Tables.Concerns e.job.key (e.written q) := by
  have hlog := Tables.Concerns.appendLog (e.job.attempt e.result e.startedAt e.finishedAt)
  unfold written
  split
  · exact ((Tables.Concerns.modifyJob ..).comp hlog).comp (.withFailure ..)
  · exact ((Tables.Concerns.modifyJob ..).comp hlog).comp (.withSuccess ..)

theorem rewrites_written (e : Errand) (q : Queue σ) (t : Tables) :
    t.Rewrites e.job.id (e.rewritten q) (e.written q t) := by
  unfold written rewritten
  split
  · exact ⟨Tables.jobs_withFailure .., fun _ => rfl⟩
  · exact ⟨rfl, fun _ => rfl⟩

/-- Jobs for different keys are different. -/
theorem ids_ne (ha : a.IsAdmitted t) (hb : b.IsAdmitted t) (hne : a.job.key ≠ b.job.key) :
    a.job.id ≠ b.job.id := by
  obtain ⟨row, hrow, hkey⟩ := ha.1
  obtain ⟨row', hrow', hkey'⟩ := hb.1
  intro hid
  rw [hid, hrow', Option.some.injEq] at hrow
  exact hne (by rw [← hkey, ← hrow, hkey'])

theorem tracked_written_of_ne (e : Errand) (q : Queue σ) (t : Tables) {key : SyncKey}
    (hne : key ≠ e.job.key) : (e.written q t).tracked key = t.tracked key :=
  (e.concerns_written q).others t key hne

/-- An attempt for another key leaves an attempt admitted. -/
theorem IsAdmitted.written (ha : a.IsAdmitted t) (hb : b.IsAdmitted t)
    (hne : a.job.key ≠ b.job.key) (q : Queue σ) : a.IsAdmitted (b.written q t) := by
  obtain ⟨⟨row, hrow, hkey⟩, hcount⟩ := ha
  refine ⟨⟨row, ?_, hkey⟩, fun hfailure => ?_⟩
  · rw [(b.rewrites_written q t).job?_of_ne (ids_ne ⟨⟨row, hrow, hkey⟩, hcount⟩ hb hne), hrow]
  · have hstat : (b.written q t).stat? a.job.key = t.stat? a.job.key := by
      rw [← Tables.stat?_tracked, b.tracked_written_of_ne q t hne, Tables.stat?_tracked]
    rw [Queue.CanCount, Tables.statOrNew, hstat]
    exact hcount hfailure

/-- **An attempt** on a store that refuses nothing ends with the state of its job. -/
theorem run_ok (hq : ¬q.IsFallible) (consumer : Nat) (h : e.IsAdmitted w.tables) :
    ∃ w', e.run q consumer w = .ok (e.job.statusAfter e.result) w' ∧
      w'.tables = e.written q w.tables := by
  obtain ⟨⟨row, hrow, -⟩, hcount⟩ := h
  have hq' : ¬({ q with word := fun _ => e.word } : Queue σ).IsFallible := hq
  obtain ⟨status, before, after, hrun, hbefore, hfinal⟩ :=
    Queue.processJob_finalizes hq' consumer e.executor e.job { w with now := e.startedAt } rfl
      (rfl : _ = e.result) (Option.isSome_of_mem hrow) hcount
  have htables : before.tables = w.tables := hbefore.tables
  rw [← htables]
  cases hfinal with
  | success hresult _ _ hafter =>
    simp only [written, Job.statusAfter, hresult, Bool.false_eq_true, if_false]
    exact ⟨_, hrun, hafter.tables⟩
  | failure hresult _ hafter =>
    simp only [written, Job.statusAfter, hresult, if_true]
    exact ⟨_, hrun, hafter.tables⟩

/-- The attempt changed no row of another job, and no log, statistics row or alert of another
key. -/
structure KeepsOthers (e : Errand) (t t' : Tables) : Prop where
  jobs : t'.jobs.filter (·.id ≠ e.job.id) = t.jobs.filter (·.id ≠ e.job.id)
  logs : ∀ key, key ≠ e.job.key →
    t'.logs.filter (·.key = key) = t.logs.filter (·.key = key)
  stats : ∀ key, key ≠ e.job.key →
    t'.stats.filter (·.key = key) = t.stats.filter (·.key = key)
  alerts : ∀ key, key ≠ e.job.key →
    t'.alerts.filter (·.key = key) = t.alerts.filter (·.key = key)

theorem keepsOthers_written (e : Errand) (q : Queue σ) (t : Tables) :
    e.KeepsOthers t (e.written q t) where
  jobs := by
    rw [(e.rewrites_written q t).jobs]
    refine Tables.filter_modifyFirst_of_disjoint fun row hrow => ?_
    have hid := (e.rewrites_written q t).id_eq row
    simp_all
  logs _ hne := congrArg (·.logs) (e.tracked_written_of_ne q t hne)
  stats _ hne := congrArg (·.stats) (e.tracked_written_of_ne q t hne)
  alerts _ hne := congrArg (·.alerts) (e.tracked_written_of_ne q t hne)

/-- The rows of jobs are written in either order. -/
theorem jobs_written_comm (hids : a.job.id ≠ b.job.id) (q : Queue σ) (t : Tables) :
    (b.written q (a.written q t)).jobs = (a.written q (b.written q t)).jobs := by
  have hleaves (e e' : Errand) (hne : e.job.id ≠ e'.job.id) (row : Job)
      (h : decide (row.id = e.job.id) = true) :
      decide (row.id = e'.job.id) = false ∧
        decide ((e.rewritten q row).id = e'.job.id) = false := by
    have hid := (e.rewrites_written q t).id_eq row
    simp_all
  rw [(b.rewrites_written q _).jobs, (a.rewrites_written q _).jobs, Tables.modifyJob,
    Tables.modifyJob, (a.rewrites_written q t).jobs, (b.rewrites_written q t).jobs]
  exact Tables.modifyFirst_comm (hleaves b a hids.symm) fun row h => (hleaves a b hids row h).2

/-- **Attempts for different keys** can be made in either order: on a store that refuses nothing
each of them ends in the same state in both orders, with the same rows of jobs, statistics, logs and
alerts in the end, and neither of them changes the row of another job or anything of another key. -/
theorem runs_commute (hq : ¬q.IsFallible) (consumer consumer' : Nat) (ha : a.IsAdmitted w.tables)
    (hb : b.IsAdmitted w.tables) (hne : a.job.key ≠ b.job.key) :
    ∃ wa wb wab wba,
      a.run q consumer w = .ok (a.job.statusAfter a.result) wa ∧
      b.run q consumer' wa = .ok (b.job.statusAfter b.result) wab ∧
      b.run q consumer' w = .ok (b.job.statusAfter b.result) wb ∧
      a.run q consumer wb = .ok (a.job.statusAfter a.result) wba ∧
      wab.tables.jobs = wba.tables.jobs ∧ wab.tables.stats.Perm wba.tables.stats ∧
      wab.tables.logs.Perm wba.tables.logs ∧ wab.tables.alerts.Perm wba.tables.alerts ∧
      a.KeepsOthers w.tables wa.tables ∧ b.KeepsOthers wa.tables wab.tables ∧
      b.KeepsOthers w.tables wb.tables ∧ a.KeepsOthers wb.tables wba.tables := by
  obtain ⟨wa, hwa, hta⟩ := run_ok hq consumer ha
  obtain ⟨wb, hwb, htb⟩ := run_ok hq consumer' hb
  obtain ⟨wab, hwab, htab⟩ :=
    run_ok hq consumer' (w := wa) (by rw [hta]; exact hb.written ha hne.symm q)
  obtain ⟨wba, hwba, htba⟩ :=
    run_ok hq consumer (w := wb) (by rw [htb]; exact ha.written hb hne q)
  have hrows := (a.concerns_written q).comm (b.concerns_written q) hne w.tables
  refine ⟨wa, wb, wab, wba, hwa, hwab, hwb, hwba, ?_⟩
  rw [htab, htba, hta, htb]
  refine ⟨jobs_written_comm (ids_ne ha hb hne) q w.tables, ?_, ?_, ?_,
    keepsOthers_written .., keepsOthers_written .., keepsOthers_written .., keepsOthers_written ..⟩
  · exact Tables.perm_of_filter_eq fun key => congrArg (·.stats) (hrows key)
  · exact Tables.perm_of_filter_eq fun key => congrArg (·.logs) (hrows key)
  · exact Tables.perm_of_filter_eq fun key => congrArg (·.alerts) (hrows key)

/-- A job of another pair of the same connector, which is held as well. -/
def heldTwin : Job := { Queue.heldOnce with id := ⟨1⟩, key := ⟨⟨1⟩, ⟨3⟩⟩ }

/-- Both jobs are held, and the breaker of the second key is open. -/
def halfOpen : World Unit :=
  .initial ⟨0⟩
    { jobs := [Queue.heldOnce, heldTwin]
      logs := []
      stats := [⟨heldTwin.key, 1, some ⟨0⟩, some ⟨1000⟩, ⟨0⟩, ⟨0⟩⟩]
      alerts := [Queue.newAlert heldTwin.key "open" ⟨0⟩] }
    ()

/-- The first job is refused, which opens the breaker of its key. -/
def refused : Errand := ⟨Queue.heldOnce, .error "refused", ⟨5⟩, ⟨8⟩, 0⟩

/-- The second job succeeds, which closes the breaker of its key. -/
def succeeded : Errand := ⟨heldTwin, .result (.success 3 1), ⟨6⟩, ⟨7⟩, 0⟩

/-- One breaker opens and the other one closes, in either order. -/
theorem runs_commute_halfOpen :
    ∃ wa wb wab wba,
      refused.run .plain 0 halfOpen = .ok .retrying wa ∧
      succeeded.run .plain 1 wa = .ok .completed wab ∧
      succeeded.run .plain 1 halfOpen = .ok .completed wb ∧
      refused.run .plain 0 wb = .ok .retrying wba ∧
      wab.tables.jobs = wba.tables.jobs ∧ wab.tables.alerts.Perm wba.tables.alerts := by
  have hrefused : refused.IsAdmitted halfOpen.tables :=
    ⟨⟨Queue.heldOnce, rfl, rfl⟩, fun _ => rfl⟩
  have hsucceeded : succeeded.IsAdmitted halfOpen.tables :=
    ⟨⟨heldTwin, rfl, rfl⟩, fun _ => rfl⟩
  obtain ⟨wa, wb, wab, wba, hwa, hwab, hwb, hwba, hjobs, -, -, halerts, -⟩ :=
    runs_commute (q := .plain) (by rintro ⟨_, _, h⟩; exact h rfl) 0 1 hrefused hsucceeded
      (by decide)
  exact ⟨wa, wb, wab, wba, hwa, hwab, hwb, hwba, hjobs, halerts⟩

end Errand

end SyncQueue
