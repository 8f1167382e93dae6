import SyncQueue.Proofs.JobLife
import SyncQueue.Proofs.Ledger

/-!
# Accounts of attempts

The log of a job has one row for every attempt that ended, except for those that ended with a bare
return. The attempts that ended are the failed ones, which the job itself counts, and the one that
completed it. Nothing is ever removed from the log.

* `Books.Balances`: how the books of a fleet and its jobs fit together.
* `Books.Balances.act`: every move keeps the balance.
* `Fleet.attempt_accounting`: what it means for the log, and how often an executor is called.
-/

namespace SyncQueue

open Time (Instant)

variable {σ : Type}

/-! ## Attempts that ended -/

namespace Job

/-- The number of attempts of the job that have ended: the failed ones, and the one that completed
it. -/
def endedAttempts (job : Job) : Int :=
  job.retryCount + if job.status = .completed then 1 else 0

variable {job held : Job} {e : Ending}

theorem endedAttempts_of_ne (h : job.status ≠ .completed) : job.endedAttempts = job.retryCount := by
  rw [endedAttempts, if_neg h, Int.add_zero]

/-- The attempts that ended are not more than the job may have. -/
theorem IsSound.endedAttempts_le (h : job.IsSound) : job.endedAttempts ≤ job.maxRetries := by
  have hcount := h.retryCount
  have hmax := h.maxRetries
  cases hstatus : job.status with
  | pending | inProgress | retrying | failed =>
    rw [hstatus] at hcount
    rw [endedAttempts_of_ne (by simp [hstatus])]
    simp only [JobStatus.Allows] at hcount
    omega
  | completed =>
    rw [hstatus] at hcount
    simp only [JobStatus.Allows] at hcount
    simp only [endedAttempts, hstatus, if_true]
    omega

/-- One more attempt of a job in progress may end. -/
theorem IsSound.endedAttempts_lt (h : job.IsSound) (hstatus : job.status = .inProgress) :
    job.endedAttempts < job.maxRetries := by
  have hcount := h.retryCount
  rw [hstatus] at hcount
  rw [endedAttempts_of_ne (by simp [hstatus])]
  exact hcount.2

/-- An attempt has an error summary exactly when its outcome is failure. -/
theorem isSome_errorSummary_attempt (job : Job) (result : ExecutionResult)
    (startedAt finishedAt : Instant) :
    (job.attempt result startedAt finishedAt).errorSummary.isSome ↔
      (job.attempt result startedAt finishedAt).outcome = .failure := by
  cases result <;> simp [attempt, ExecutionResult.errorSummary, ExecutionResult.outcome]

namespace Ends

/-- An end is counted in the row. -/
theorem endedAttempts_write (h : held.Ends e) (hstatus : held.status = .inProgress) :
    (e.write held).endedAttempts = held.endedAttempts + 1 := by
  have hbefore : held.endedAttempts = held.retryCount := endedAttempts_of_ne (by simp [hstatus])
  rw [hbefore]
  cases h with
  | completed => rfl
  | failed | returned | returnedRow =>
    exact endedAttempts_of_ne held.nextStatus_ne_completed

/-- An end is logged once, or it is a bare return. -/
theorem logged_once (h : held.Ends e) (id : Uuid) :
    e.logs.countP (·.jobId = id) + (if e.deed.isBareReturn id then 1 else 0) =
      if held.id = id then 1 else 0 := by
  cases h <;> simp [Deed.isBareReturn, Job.attempt]

/-- A row of the log names its job, and has an error summary exactly when its outcome is
failure. -/
theorem own_log (h : held.Ends e) {log : AttemptLog} (hlog : log ∈ e.logs) :
    log.jobId = held.id ∧ log.key = held.key ∧
      (log.errorSummary.isSome ↔ log.outcome = .failure) := by
  cases h with
  | completed | failed | returned =>
    obtain rfl := List.mem_singleton.1 hlog
    exact ⟨rfl, rfl, held.isSome_errorSummary_attempt ..⟩
  | returnedRow => cases hlog

end Ends

end Job

/-! ## The balance -/

/-- The books and the rows of jobs fit together. -/
structure Books.Balances (b : Books) (t : Tables) : Prop where
  /-- Attempts that ended are logged, unless their job was returned alone. -/
  logged : ∀ id, b.logs.countP (·.jobId = id) + b.bareReturns id = b.settled id
  /-- Attempts that ended are counted in the row of the job. -/
  counted : ∀ id, (b.settled id : Int) = ((t.job? id).map Job.endedAttempts).getD 0
  /-- Rows of the log are about the jobs that they name. -/
  own : ∀ log ∈ b.logs, (∃ job, t.job? log.jobId = some job ∧ log.key = job.key) ∧
    (log.errorSummary.isSome ↔ log.outcome = .failure)

namespace Books.Balances

variable {b : Books} {t t' : Tables}

theorem of_jobs (h : b.Balances t) (hjobs : t'.jobs = t.jobs) : b.Balances t' := by
  have hjob (id : Uuid) : t'.job? id = t.job? id := Tables.job?_congr hjobs id
  refine ⟨h.logged, fun id => ?_, fun log hlog => ?_⟩
  · rw [hjob]
    exact h.counted id
  · rw [hjob]
    exact h.own log hlog

theorem of_inserts (h : b.Balances t) {job : Job} (hnew : job.IsNew)
    (hfresh : t.job? job.id = none) (hjobs : t'.jobs = (t.insertJob job).jobs) : b.Balances t' := by
  refine ⟨h.logged, fun id => ?_, fun log hlog => ?_⟩
  · rw [h.counted, Tables.job?_congr hjobs, Tables.job?_insertJob]
    by_cases hid : job.id = id
    · have hnone : job.endedAttempts = 0 := by
        rw [Job.endedAttempts_of_ne (by simp [hnew.status]), hnew.retryCount]
      subst hid
      simp [hfresh, hnone]
    · simp [hid]
  · obtain ⟨⟨row, hrow, hkey⟩, hsummary⟩ := h.own log hlog
    rw [Tables.job?_congr hjobs]
    exact ⟨⟨row, Tables.job?_insertJob_of_some hrow, hkey⟩, hsummary⟩

/-- A row that is written keeps its key, so the rows of the log stay its own. -/
theorem own_rewrites (h : b.Balances t) {id : Uuid} {write : Job → Job}
    (hwrite : t.Rewrites id write t') (hkey : ∀ row, (write row).key = row.key) {log : AttemptLog}
    (hlog : log ∈ b.logs) : ∃ job, t'.job? log.jobId = some job ∧ log.key = job.key := by
  obtain ⟨⟨row, hrow, hlogKey⟩, -⟩ := h.own log hlog
  by_cases hid : log.jobId = id
  · refine ⟨write row, ?_, hlogKey.trans (hkey row).symm⟩
    rw [hwrite.job?_eq, if_pos hid, ← hid, hrow, Option.map_some]
  · exact ⟨row, (hwrite.job?_of_ne hid).trans hrow, hlogKey⟩

theorem of_claims (h : b.Balances t) {job : Job} {now : Instant} (hrow : t.job? job.id = some job)
    (hclaimable : job.status.isClaimable) (hwrite : t.Rewrites job.id (·.claimed now) t') :
    b.Balances t' := by
  refine ⟨h.logged, fun id => ?_, fun log hlog => ⟨?_, (h.own log hlog).2⟩⟩
  · rw [h.counted, hwrite.job?_eq]
    split
    · rename_i hid
      have hstatus : job.status ≠ .completed := fun hcompleted => by
        rw [hcompleted] at hclaimable
        cases hclaimable
      have hsame : (job.claimed now).endedAttempts = job.endedAttempts := by
        rw [Job.endedAttempts_of_ne hstatus]
        exact Job.endedAttempts_of_ne (by simp [Job.claimed])
      simp [hid, hrow, hsame]
    · rfl
  · exact h.own_rewrites hwrite (fun _ => rfl) hlog

/-- **An end** is entered once on each side. -/
theorem of_ends (h : b.Balances t) {held : Job} {e : Ending} (hends : held.Ends e)
    (hstatus : held.status = .inProgress) (hrow : t.job? held.id = some held)
    (hwrite : t.Rewrites held.id e.write t') : (b.close held.id e).Balances t' := by
  refine ⟨fun id => ?_, fun id => ?_, fun log hlog => ?_⟩
  · have hbefore := h.logged id
    have hone := hends.logged_once id
    simp only [close, List.countP_append]
    omega
  · have hbefore := h.counted id
    have hone := hends.endedAttempts_write hstatus
    rw [hwrite.job?_eq]
    by_cases hid : held.id = id
    · subst hid
      rw [hrow, Option.map_some, Option.getD_some] at hbefore
      simp only [close, if_true, hrow, Option.map_some, Option.getD_some, hone]
      omega
    · rw [if_neg (Ne.symm hid)]
      simp only [close, if_neg hid]
      exact hbefore
  · obtain hlog | hlog := List.mem_append.1 hlog
    · exact ⟨h.own_rewrites hwrite hends.key_write hlog, (h.own log hlog).2⟩
    · obtain ⟨hid, hkey, hsummary⟩ := hends.own_log hlog
      refine ⟨⟨e.write held, ?_, hkey.trans (hends.key_write held).symm⟩, hsummary⟩
      rw [hid]
      exact hwrite.job?_self hrow

end Books.Balances

/-! ## Fleets -/

namespace Fleet

variable {f g : Fleet σ} {rule : Rule σ}

/-- **Every move** keeps the balance. -/
theorem balances_act (h : f.books.Balances f.world.tables) (hserved : f.WellServed)
    (hcustody : f.InCustody) (q : Queue σ) (m : Move) :
    (f.act q m).books.Balances (f.act q m).world.tables := by
  have hentries := act_entries hserved q m
  generalize f.act q m = g at hentries
  cases hentries with
  | rests hjobs hbooks =>
    rw [hbooks]
    exact h.of_jobs hjobs
  | inserts hnew hfresh hjobs hbooks =>
    rw [hbooks]
    exact h.of_inserts hnew hfresh hjobs
  | claims now hmem hclaimable hwrite hbooks =>
    rw [hbooks]
    exact h.of_claims (Tables.job?_of_mem hcustody.ids hmem) hclaimable hwrite
  | answers outcome hjobs hbooks =>
    rw [hbooks]
    have hb := h.of_jobs hjobs
    exact ⟨hb.logged, hb.counted, hb.own⟩
  | ends hout hends hwrite hbooks =>
    obtain ⟨hstatus, hrow⟩ := hcustody.rows _ hout
    rw [hbooks]
    exact h.of_ends hends hstatus hrow hwrite

theorem Arises.balances (h : f.Arises rule) : f.books.Balances f.world.tables := by
  refine h.induction_arises (fun _ _ => ⟨fun _ => rfl, fun _ => rfl, fun _ hlog => ?_⟩)
    fun _ q m hf hb => balances_act hb hf.wellServed hf.inCustody q m
  cases hlog

/-- The number of attempts of a job in which the executor has been called. -/
def calls (f : Fleet σ) (id : Uuid) : Nat :=
  f.held.countP fun h => decide (h.job.id = id) && h.stage.isCalled

/-- An attempt in which the executor has been called has ended or is outstanding. -/
theorem calls_le (f : Fleet σ) (id : Uuid) :
    f.calls id ≤ f.settled id + f.outstanding.countP (·.id = id) := by
  rw [outstanding, List.countP_map, List.countP_filter, calls, settled]
  simp only [Function.comp_apply]
  induction f.held with
  | nil => simp
  | cons h held ih =>
    simp only [List.countP_cons]
    cases h.stage.isOutstanding <;> cases h.stage.isCalled <;> by_cases hid : h.job.id = id <;>
      simp only [hid, decide_true, decide_false, Bool.and_true, Bool.and_false, Bool.not_true,
        Bool.not_false, Bool.false_eq_true, if_true, if_false] <;>
      omega

/-- **The executor** is called no more often than the job may be tried. -/
theorem Arises.calls_le (h : f.Arises rule) {job : Job} (hjob : job ∈ f.world.tables.jobs) :
    (f.calls job.id : Int) ≤ job.maxRetries := by
  have hrow : f.world.tables.job? job.id = some job := Tables.job?_of_mem h.inCustody.ids hjob
  have hsound : job.IsSound := h.hasSoundJobs job hjob
  have hcalls : f.calls job.id ≤ f.settled job.id + f.outstanding.countP (·.id = job.id) :=
    f.calls_le job.id
  have hcounted := h.balances.counted job.id
  rw [hrow, Option.map_some, Option.getD_some] at hcounted
  change (f.settled job.id : Int) = _ at hcounted
  by_cases hheld : ∃ held ∈ f.outstanding, held.id = job.id
  · -- the attempt under way is not counted in the row yet, which is why there is room for it
    obtain ⟨held, hout, hid⟩ := hheld
    obtain ⟨hstatus, hfound⟩ := h.inCustody.rows held hout
    obtain rfl : job = held := Option.some.inj (hrow.symm.trans (hid ▸ hfound))
    have hone : f.outstanding.countP (·.id = job.id) ≤ 1 := by
      have hcount := List.nodup_iff_count_le_one.1 h.inCustody.apart job.id
      rwa [List.count, List.countP_map] at hcount
    have hlt := hsound.endedAttempts_lt hstatus
    omega
  · have hnone : f.outstanding.countP (·.id = job.id) = 0 := by
      refine List.countP_eq_zero.2 fun held hout hid => hheld ⟨held, hout, ?_⟩
      simpa using hid
    have hle := hsound.endedAttempts_le
    omega

/-- A move adds to the end of the log, or nothing. -/
theorem Entries.logs (h : Entries f g) : f.world.tables.logs <+: g.world.tables.logs := by
  cases h with
  | rests _ hbooks | inserts _ _ _ hbooks | claims _ _ _ _ hbooks | answers _ _ hbooks =>
    have hlogs : g.world.tables.logs = f.world.tables.logs := congrArg Books.logs hbooks
    exact ⟨[], (List.append_nil _).trans hlogs.symm⟩
  | ends _ _ _ hbooks =>
    have hlogs := congrArg Books.logs hbooks
    exact ⟨_, hlogs.symm⟩

/-- **Nothing is removed from the log**, and no row of it is changed. -/
theorem Leads.logs (h : f.Leads rule g) (hserved : f.WellServed) :
    f.world.tables.logs <+: g.world.tables.logs := by
  refine (h.induction (P := fun g => g.WellServed ∧ f.world.tables.logs <+: g.world.tables.logs)
    (fun g q m _ hg => ?_) ⟨hserved, List.prefix_refl _⟩).2
  exact ⟨hg.1.act q m, hg.2.trans (act_entries hg.1 q m).logs⟩

/-- **Accounting for attempts** over whole runs: a job has one log row for each of its attempts that
failed and for the one that completed it, less one for each bare return, and its executor was called
no more often than the job may be tried; every row of the log carries the key of its job, and an
error summary exactly when its outcome is failure; and the log only ever grows at its end. -/
theorem attempt_accounting (h : f.Arises rule) :
    (∀ job ∈ f.world.tables.jobs,
      ((f.world.tables.logsOf job.id).length : Int) =
          job.retryCount + (if job.status = .completed then 1 else 0) - f.bareReturns job.id ∧
        (f.calls job.id : Int) ≤ job.maxRetries) ∧
      (∀ log ∈ f.world.tables.logs,
        (∃ job, f.world.tables.job? log.jobId = some job ∧ log.key = job.key) ∧
          (log.errorSummary.isSome ↔ log.outcome = .failure)) ∧
      ∀ (rule' : Rule σ) (g : Fleet σ), f.Leads rule' g →
        f.world.tables.logs <+: g.world.tables.logs := by
  refine ⟨fun job hjob => ⟨?_, h.calls_le hjob⟩, h.balances.own,
    fun _ _ hleads => hleads.logs h.wellServed⟩
  have hrow : f.world.tables.job? job.id = some job := Tables.job?_of_mem h.inCustody.ids hjob
  have hlogged := h.balances.logged job.id
  have hcounted := h.balances.counted job.id
  rw [hrow, Option.map_some, Option.getD_some, Job.endedAttempts] at hcounted
  rw [Tables.logsOf, List.length_mergeSort, ← List.countP_eq_length_filter]
  simp only [books] at hlogged hcounted
  omega

/-- The small queue on a store that refuses rows of the log. -/
def unlogging : Queue Unit :=
  { Queue.plain with
    faults _ s :=
      if s.kind = .insert ∧ s.tables = [.logs] then some .recordNotInserted else none }

/-- A job is returned without a log row, and then completed. -/
def unlogged : Fleet Unit :=
  ((plain [.schedule 2 (.plain none), .claim]).run unlogging
      [.advance 0 (.result noopResult), .advance 0 (.result noopResult),
        .advance 0 (.result noopResult), .advance 0 (.result noopResult),
        .advance 0 (.result noopResult)]).run .plain
    [.clock ⟨10000000000000⟩, .claim, .advance 1 (.result noopResult),
      .advance 1 (.result noopResult), .advance 1 (.result noopResult)]

/-- Its log has one row for two calls of the executor. -/
theorem attempt_accounting_unlogged :
    unlogged.world.tables.jobs.map (fun job => (job.retryCount, job.status)) = [(1, .completed)] ∧
      unlogged.bareReturns ⟨0⟩ = 1 ∧ unlogged.calls ⟨0⟩ = 2 ∧
      ∀ job ∈ unlogged.world.tables.jobs, ((unlogged.world.tables.logsOf job.id).length : Int) =
        job.retryCount + (if job.status = .completed then 1 else 0) -
          unlogged.bareReturns job.id := by
  have harises : unlogged.Arises .free :=
    ((plain_arises (fun _ _ => trivial) _).leads (.run (fun _ _ => trivial) _ _)).leads
      (.run (fun _ _ => trivial) _ _)
  exact ⟨by decide +kernel, by decide +kernel, by decide +kernel,
    fun job hjob => ((attempt_accounting harises).1 job hjob).1⟩

end Fleet

end SyncQueue
