import Mathlib.Algebra.Ring.Int.Defs
import SyncQueue.Proofs.JobLife
import SyncQueue.Proofs.Ledger

/-!
# Telemetry

The events that consumers report agree with the store: every job that is completed or has failed was
reported once as such, every failed attempt was reported as the retry or as the failure of its job,
and every answer of an executor was reported with its outcome.

* `Job.Ends.count_status`, `Job.Ends.count_retry`: what the end of an attempt reports.
* `Books.Tells`: how the events and the rows of jobs fit together.
* `Fleet.telemetry_agrees`: what this means for whole runs, connector by connector.
-/

namespace SyncQueue

open Time (Instant)

variable {σ : Type}

/-! ## Durations -/

/-- The outcome with which a duration was reported. -/
def Event.outcome? : Event → Option Outcome
  | duration outcome => some outcome
  | _ => none

/-- The outcome of an answer: that of its result, and failure if it is none. -/
def Answer.outcome : Answer → Outcome
  | result r => r.outcome
  | error _ | panic _ | cancelled => .failure

theorem Answer.outcome_toResult (answer : Answer) : answer.toResult.outcome = answer.outcome := by
  cases answer <;> rfl

/-! ## What the end of an attempt reports -/

namespace Job

variable {held : Job} {e : Ending} {c : Uuid}

theorem count_status_failureEvents (s : JobStatus) (c : Uuid) :
    held.failureEvents.count (.status s c) =
      if held.key.connector = c ∧ held.nextStatus = s then 1 else 0 := by
  unfold failureEvents
  split <;> simp [List.count_cons, and_comm]

theorem count_retry_failureEvents (c : Uuid) :
    held.failureEvents.count (.retry c) =
      if held.key.connector = c ∧ held.nextStatus = .retrying then 1 else 0 := by
  unfold failureEvents nextStatus
  split <;> simp [List.count_cons]

theorem outcomes_failureEvents : held.failureEvents.filterMap Event.outcome? = [] := by
  unfold failureEvents
  split <;> rfl

theorem nextStatus_cases (job : Job) : job.nextStatus = .failed ∨ job.nextStatus = .retrying := by
  unfold nextStatus
  split
  · exact .inl rfl
  · exact .inr rfl

namespace Ends

/-- Measuring the queue depth reports no other events. -/
theorem count_noise {noise : List Event} (hnoise : ∀ e ∈ noise, e.isDepth) {e : Event}
    (he : e.isDepth = false) : noise.count e = 0 := by
  refine List.count_eq_zero.2 fun hmem => ?_
  rw [hnoise e hmem] at he
  cases he

/-- An end reports the state in which it leaves its job, and no other one. -/
theorem count_status (h : held.Ends e) (s : JobStatus) (c : Uuid) :
    e.events.count (.status s c) =
      if held.key.connector = c ∧ (e.write held).status = s then 1 else 0 := by
  cases h with
  | completed _ _ _ hnoise =>
    rw [List.count_append, count_noise hnoise rfl, Nat.zero_add, List.count_singleton]
    simp [Job.completed, and_comm]
  | failed | returned | returnedRow => exact count_status_failureEvents s c

/-- An end reports a retry exactly when it leaves its job to be tried again. -/
theorem count_retry (h : held.Ends e) (c : Uuid) :
    e.events.count (.retry c) =
      if held.key.connector = c ∧ (e.write held).status = .retrying then 1 else 0 := by
  cases h with
  | completed _ _ _ hnoise =>
    rw [List.count_append, count_noise hnoise rfl, Nat.zero_add, List.count_singleton]
    simp [Job.completed]
  | failed | returned | returnedRow => exact count_retry_failureEvents c

/-- An end reports no duration. -/
theorem outcomes_events (h : held.Ends e) : e.events.filterMap Event.outcome? = [] := by
  cases h with
  | completed _ _ _ hnoise =>
    refine List.filterMap_eq_nil_iff.2 fun e he => ?_
    obtain he | he := List.mem_append.1 he
    · have hdepth := hnoise e he
      cases e with
      | duration => cases hdepth
      | status | retry | refresh | depth | tick | heartbeat => rfl
    · obtain rfl := List.mem_singleton.1 he
      rfl
  | failed | returned | returnedRow => exact outcomes_failureEvents

/-- An end that counts one more failed attempt reports it as a retry or as a failure. -/
theorem retryCount_write (h : held.Ends e) :
    (e.write held).retryCount = held.retryCount + e.events.count (.retry held.key.connector) +
      e.events.count (.status .failed held.key.connector) := by
  rw [h.count_retry, h.count_status]
  simp only [true_and]
  cases h with
  | completed => simp [Job.completed]
  | failed | returned | returnedRow =>
    obtain hnext | hnext := held.nextStatus_cases <;>
      simp [Job.afterFailure, nextRetryCount, hnext]

end Ends

end Job

/-! ## Connectors -/

namespace Tables

variable {t t' : Tables}

/-- The jobs of a connector. -/
def jobsOf (t : Tables) (c : Uuid) : List Job := t.jobs.filter (·.key.connector = c)

/-- The number of jobs of a connector that are in a state. -/
def countOf (t : Tables) (c : Uuid) (s : JobStatus) : Nat := (t.jobsOf c).countP (·.status = s)

/-- The number of failed attempts of all jobs of a connector. -/
def retriesOf (t : Tables) (c : Uuid) : Int := ((t.jobsOf c).map (·.retryCount)).sum

theorem jobsOf_congr (h : t'.jobs = t.jobs) (c : Uuid) : t'.jobsOf c = t.jobsOf c := by
  rw [jobsOf, jobsOf, h]

theorem jobsOf_insertJob (job : Job) (c : Uuid) :
    (t.insertJob job).jobsOf c = t.jobsOf c ++ if job.key.connector = c then [job] else [] := by
  by_cases h : job.key.connector = c <;> simp [jobsOf, insertJob, List.filter_append, h]

/-- A job that is written is one of the jobs of its connector. -/
theorem Rewrites.countOf {id : Uuid} {write : Job → Job} {row : Job} (h : t.Rewrites id write t')
    (hrow : t.job? id = some row) (hkey : (write row).key = row.key) (c : Uuid) (s : JobStatus) :
    t'.countOf c s + (if row.key.connector = c ∧ row.status = s then 1 else 0) =
      t.countOf c s + if row.key.connector = c ∧ (write row).status = s then 1 else 0 := by
  obtain ⟨before, after, hbefore, hafter⟩ := h.split hrow
  simp only [Tables.countOf, jobsOf, hbefore, hafter, List.filter_append, List.filter_cons, hkey,
    List.countP_append, decide_eq_true_eq]
  by_cases hc : row.key.connector = c
  · simp only [hc, if_true, true_and, List.countP_cons, decide_eq_true_eq]
    omega
  · simp only [hc, if_false, false_and]

theorem Rewrites.retriesOf {id : Uuid} {write : Job → Job} {row : Job} (h : t.Rewrites id write t')
    (hrow : t.job? id = some row) (hkey : (write row).key = row.key) (c : Uuid) :
    t'.retriesOf c + (if row.key.connector = c then row.retryCount else 0) =
      t.retriesOf c + if row.key.connector = c then (write row).retryCount else 0 := by
  obtain ⟨before, after, hbefore, hafter⟩ := h.split hrow
  simp only [Tables.retriesOf, jobsOf, hbefore, hafter, List.filter_append, List.filter_cons, hkey,
    List.map_append, List.sum_append, decide_eq_true_eq]
  by_cases hc : row.key.connector = c
  · simp only [if_pos hc, List.map_cons, List.sum_cons]
    omega
  · simp only [if_neg hc]

end Tables

/-! ## The agreement -/

/-- The events and the rows of jobs fit together. -/
structure Books.Tells (b : Books) (t : Tables) : Prop where
  /-- A job that has come to its end was reported once in its state. -/
  terminal : ∀ s c, s.isTerminal → b.events.count (.status s c) = t.countOf c s
  retrying : ∀ c, b.events.count (.status .retrying c) = b.events.count (.retry c)
  /-- A failed attempt was reported as a retry or as the failure of its job. -/
  failures : ∀ c, (b.events.count (.retry c) + b.events.count (.status .failed c) : Int) =
    t.retriesOf c
  durations : b.events.filterMap Event.outcome? = b.outcomes
  answered : b.outcomes.length = b.answered

namespace Books.Tells

variable {b : Books} {t t' : Tables}

theorem of_jobs (h : b.Tells t) (hjobs : t'.jobs = t.jobs) : b.Tells t' := by
  refine ⟨fun s c hs => ?_, h.retrying, fun c => ?_, h.durations, h.answered⟩
  · rw [h.terminal s c hs, Tables.countOf, Tables.countOf, Tables.jobsOf_congr hjobs]
  · rw [h.failures c, Tables.retriesOf, Tables.retriesOf, Tables.jobsOf_congr hjobs]

/-- A new job is in no terminal state and has no failed attempts. -/
theorem of_inserts (h : b.Tells t) {job : Job} (hnew : job.IsNew)
    (hjobs : t'.jobs = (t.insertJob job).jobs) : b.Tells t' := by
  have hjobsOf (c : Uuid) :
      t'.jobsOf c = t.jobsOf c ++ if job.key.connector = c then [job] else [] := by
    rw [Tables.jobsOf_congr hjobs, Tables.jobsOf_insertJob]
  refine ⟨fun s c hs => ?_, h.retrying, fun c => ?_, h.durations, h.answered⟩
  · have hstatus : job.status ≠ s := fun heq => by
      rw [← heq, hnew.status] at hs
      cases hs
    rw [h.terminal s c hs, Tables.countOf, Tables.countOf, hjobsOf]
    split <;> simp [hstatus]
  · rw [h.failures c, Tables.retriesOf, Tables.retriesOf, hjobsOf]
    split <;> simp [hnew.retryCount]

theorem of_claims (h : b.Tells t) {job : Job} {now : Instant} (hrow : t.job? job.id = some job)
    (hclaimable : job.status.isClaimable) (hwrite : t.Rewrites job.id (·.claimed now) t') :
    b.Tells t' := by
  refine ⟨fun s c hs => ?_, h.retrying, fun c => ?_, h.durations, h.answered⟩
  · have hcount := hwrite.countOf hrow rfl c s
    have hbefore : job.status ≠ s := fun heq => by
      have hopen := (JobStatus.next_of_isClaimable hclaimable).not_isTerminal
      rw [heq, hs] at hopen
      cases hopen
    have hafter : (job.claimed now).status ≠ s := fun heq => by
      rw [← heq] at hs
      cases hs
    simp only [hbefore, hafter, and_false, if_false, Nat.add_zero] at hcount
    rw [hcount, h.terminal s c hs]
  · have hretries := hwrite.retriesOf hrow rfl c
    have hsame : (job.claimed now).retryCount = job.retryCount := rfl
    rw [h.failures c]
    rw [hsame] at hretries
    omega

theorem of_answer (h : b.Tells t) (outcome : Outcome) : (b.answer outcome).Tells t := by
  have hcount {e : Event} (he : e ≠ .duration outcome) :
      (b.answer outcome).events.count e = b.events.count e :=
    List.count_cons_of_ne he.symm
  refine ⟨fun s c hs => ?_, fun c => ?_, fun c => ?_, ?_, ?_⟩
  · rw [hcount (by simp), h.terminal s c hs]
  · rw [hcount (by simp), hcount (by simp), h.retrying c]
  · rw [hcount (by simp), hcount (by simp), h.failures c]
  · exact congrArg (outcome :: ·) h.durations
  · exact congrArg (· + 1) h.answered

/-- **An end** is reported once. -/
theorem of_ends (h : b.Tells t) {held : Job} {e : Ending} (hends : held.Ends e)
    (hstatus : held.status = .inProgress) (hrow : t.job? held.id = some held)
    (hwrite : t.Rewrites held.id e.write t') (hkey : (e.write held).key = held.key) :
    (b.close held.id e).Tells t' := by
  refine ⟨fun s c hs => ?_, fun c => ?_, fun c => ?_, ?_, h.answered⟩
  · have hcount := hwrite.countOf hrow hkey c s
    -- the job was in progress, so the state it is left in is the only one to count
    have hbefore : held.status ≠ s := fun heq => by
      rw [← heq, hstatus] at hs
      cases hs
    have hevents := hends.count_status s c
    have hterminal := h.terminal s c hs
    simp only [hbefore, and_false, if_false, Nat.add_zero] at hcount
    simp only [close, List.count_append]
    omega
  · have hevents := hends.count_status .retrying c
    have hretry := hends.count_retry c
    have hretrying := h.retrying c
    simp only [close, List.count_append]
    omega
  · have hretries := hwrite.retriesOf hrow hkey c
    have hfailures := h.failures c
    simp only [close, List.count_append]
    by_cases hc : held.key.connector = c
    · have hcount := hends.retryCount_write
      rw [hc] at hcount
      rw [if_pos hc, if_pos hc] at hretries
      omega
    · have hretry := hends.count_retry c
      have hfailed := hends.count_status .failed c
      simp only [hc, false_and, if_false] at hretries hretry hfailed
      omega
  · simp only [close, List.filterMap_append, hends.outcomes_events, List.nil_append, h.durations]

end Books.Tells

/-! ## Fleets -/

namespace Fleet

variable {f : Fleet σ} {rule : Rule σ}

/-- **Every move** keeps the agreement. -/
theorem tells_act (h : f.books.Tells f.world.tables) (hserved : f.WellServed)
    (hcustody : f.InCustody) (q : Queue σ) (m : Move) :
    (f.act q m).books.Tells (f.act q m).world.tables := by
  have hentries := act_entries hserved q m
  generalize f.act q m = g at hentries
  cases hentries with
  | rests hjobs hbooks =>
    rw [hbooks]
    exact h.of_jobs hjobs
  | inserts hnew _ hjobs hbooks =>
    rw [hbooks]
    exact h.of_inserts hnew hjobs
  | claims now hmem hclaimable hwrite hbooks =>
    rw [hbooks]
    exact h.of_claims (Tables.job?_of_mem hcustody.ids hmem) hclaimable hwrite
  | answers outcome hjobs hbooks =>
    rw [hbooks]
    exact (h.of_answer outcome).of_jobs hjobs
  | ends hout hends hwrite hbooks =>
    obtain ⟨hstatus, hrow⟩ := hcustody.rows _ hout
    rw [hbooks]
    exact h.of_ends hends hstatus hrow hwrite (hends.key_write _)

theorem Arises.tells (h : f.Arises rule) : f.books.Tells f.world.tables :=
  h.induction_arises
    (fun _ _ => ⟨fun _ _ _ => rfl, fun _ => rfl, fun _ => rfl, rfl, rfl⟩)
    fun _ q m hf hb => tells_act hb hf.wellServed hf.inCustody q m

/-- The outcomes with which durations have been reported, newest first. -/
def durations (f : Fleet σ) : List Outcome := f.world.events.filterMap Event.outcome?

/-- The outcome of the answer that a move gives to an attempt whose executor has been called. -/
def answers (f : Fleet σ) : Move → List Outcome
  | .advance n answer =>
    match f.held[n]? with
    | some h => if h.stage.isExecuting then [answer.outcome] else []
    | none => []
  | _ => []

/-- **A duration** is reported when an executor answers, with the outcome of the answer, and at no
other time. -/
theorem durations_act (f : Fleet σ) (q : Queue σ) (m : Move) :
    (f.act q m).durations = f.answers m ++ f.durations := by
  have hmoves := act_moves q f m
  generalize f.act q m = g at hmoves
  cases hmoves with
  | clock | requested | unserved => rfl
  | scheduled h =>
    exact congrArg (List.filterMap Event.outcome?) (Phase.leaves_of_steps h).events
  | served _ h => exact congrArg (List.filterMap Event.outcome?) h.leaves.events
  | claimed _ hw | unclaimed _ hw => exact congrArg (List.filterMap Event.outcome?) hw.events
  | unadvanced hn => simp only [answers, hn, List.nil_append]
  | @advanced n answer h stage w hn hstep =>
    obtain ⟨job, before⟩ := h
    simp only [answers, hn, durations]
    cases hstep.enters with
    | rests hsilent _ _ _ _ hevents =>
      simp only [hsilent, hevents, Bool.false_eq_true, if_false, List.nil_append]
    | answers _ hevents =>
      rw [hevents]
      simp [AttemptStage.isExecuting, Event.outcome?, answer.outcome_toResult]
    | ends hends _ _ hanswered _ _ _ _ hevents =>
      have hsilent : before.isExecuting = false := by
        cases before with
        | executing => cases hanswered
        | claimed | executed | failed | unlogged | ended | stranded => rfl
      rw [hevents, List.filterMap_append, hends.outcomes_events]
      simp only [hsilent, Bool.false_eq_true, if_false]

/-- An executor that has been called has answered, or it is still at work. -/
theorem countP_isCalled (f : Fleet σ) :
    f.answered + f.held.countP (·.stage.isExecuting) = f.held.countP (·.stage.isCalled) := by
  have hstage (s : AttemptStage) : (if s.isCalled then 1 else 0) =
      (if s.isAnswered then 1 else 0) + if s.isExecuting then 1 else 0 := by
    cases s <;> rfl
  rw [answered]
  induction f.held with
  | nil => rfl
  | cons h held ih =>
    simp only [List.countP_cons, hstage]
    omega

/-- **Telemetry agrees with the store** after whole runs. For every connector, the jobs reported as
completed and as failed are those that are; as many retries were reported as jobs were reported to
be retrying, which is the number of failed attempts less the number of failed jobs. A duration was
reported for every call of an executor that has been answered, and each with the outcome of the
answer. -/
theorem telemetry_agrees (h : f.Arises rule) :
    (∀ c, f.world.events.count (.status .completed c) = f.world.tables.countOf c .completed ∧
      f.world.events.count (.status .failed c) = f.world.tables.countOf c .failed ∧
      f.world.events.count (.status .retrying c) = f.world.events.count (.retry c) ∧
      (f.world.events.count (.retry c) : Int) =
        f.world.tables.retriesOf c - f.world.tables.countOf c .failed) ∧
      f.durations.length + f.held.countP (·.stage.isExecuting) =
        f.held.countP (·.stage.isCalled) ∧
      f.durations = f.outcomes ∧
      ∀ (q : Queue σ) (m : Move), (f.act q m).durations = f.answers m ++ f.durations := by
  have htells := h.tells
  refine ⟨fun c => ⟨htells.terminal .completed c rfl, htells.terminal .failed c rfl,
    htells.retrying c, ?_⟩, ?_, htells.durations, f.durations_act⟩
  · have hfailed := htells.terminal .failed c rfl
    have hfailures := htells.failures c
    simp only [books] at hfailed hfailures
    omega
  · have hanswered : f.durations.length = f.answered :=
      (congrArg List.length htells.durations).trans htells.answered
    rw [hanswered, f.countP_isCalled]

/-- The job that failed twice was reported to be retrying and then to have failed, and both calls of
its executor as failures. -/
theorem telemetry_agrees_exhausted :
    exhausted.durations = [.failure, .failure] ∧
      exhausted.world.events.count (.retry ⟨1⟩) = 1 ∧
      (exhausted.world.events.count (.retry ⟨1⟩) : Int) =
        exhausted.world.tables.retriesOf ⟨1⟩ - exhausted.world.tables.countOf ⟨1⟩ .failed := by
  have h := telemetry_agrees (plain_arises (fun _ _ => trivial) _ : exhausted.Arises .free)
  exact ⟨by decide +kernel, by decide +kernel, (h.1 ⟨1⟩).2.2.2⟩

end Fleet

end SyncQueue
