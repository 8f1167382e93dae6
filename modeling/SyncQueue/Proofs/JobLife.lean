import SyncQueue.Number.Width
import SyncQueue.Proofs.Custody

/-!
# The life of a job

A job is pending until it is claimed for the first time. Each attempt takes it from in progress to
completed, to retrying or, with its last attempt, to failed; a job that is retrying is claimed
again. Its state, its count of failed attempts and its last error fit together at all times.

* `Job.IsSound`: how they fit together.
* `Fleet.job_lifecycle`: every row is sound in every fleet, every move takes a row along an edge of
  `JobStatus.Next` or leaves it as it is, and terminal rows stay as they are forever.
* `Fleet.Arises.counts_fit`: the counts of attempts stay within their 32 bits.
-/

namespace SyncQueue

open Time (Instant)

variable {σ : Type}

/-! ## Sound rows -/

namespace JobStatus

/-- The counts of failed attempts that go with a state. -/
def Allows (retryCount maxRetries : Int) : JobStatus → Prop
  | pending => retryCount = 0
  | retrying => 1 ≤ retryCount ∧ retryCount < maxRetries
  | inProgress | completed => 0 ≤ retryCount ∧ retryCount < maxRetries
  | failed => retryCount = maxRetries

/-- A job in the first state may be in the second one next. -/
inductive Next : JobStatus → JobStatus → Prop where
  | claim : Next pending inProgress
  | claimAgain : Next retrying inProgress
  | complete : Next inProgress completed
  | retry : Next inProgress retrying
  | fail : Next inProgress failed

/-- Nothing comes after a terminal state. -/
theorem Next.not_isTerminal {s s' : JobStatus} (h : Next s s') : s.isTerminal = false := by
  cases h <;> rfl

theorem next_of_isClaimable {s : JobStatus} (h : s.isClaimable) : Next s .inProgress := by
  cases s with
  | pending => exact .claim
  | retrying => exact .claimAgain
  | inProgress | completed | failed => cases h

end JobStatus

namespace Job

/-- The state, the count of failed attempts and the last error of a job fit together. -/
structure IsSound (job : Job) : Prop where
  retryCount : job.status.Allows job.retryCount job.maxRetries
  maxRetries : 1 ≤ job.maxRetries
  lastError : job.lastError.isSome ↔ 0 < job.retryCount ∧ job.status ≠ .completed

variable {job : Job}

/-- An attempt that fails does not complete its job. -/
theorem nextStatus_ne_completed (job : Job) : job.nextStatus ≠ .completed := by
  unfold nextStatus
  split <;> simp

theorem IsNew.isSound (h : job.IsNew) : job.IsSound where
  retryCount := by
    rw [h.status]
    exact h.retryCount
  maxRetries := h.maxRetries
  lastError := by simp [h.lastError, h.retryCount]

namespace IsSound

/-- A claimable job has an attempt left. -/
theorem retryCount_of_isClaimable (h : job.IsSound) (hclaimable : job.status.isClaimable) :
    0 ≤ job.retryCount ∧ job.retryCount < job.maxRetries := by
  have hcount := h.retryCount
  have hmax := h.maxRetries
  cases hstatus : job.status with
  | pending =>
    rw [hstatus] at hcount
    have : job.retryCount = 0 := hcount
    omega
  | retrying =>
    rw [hstatus] at hcount
    exact ⟨by have := hcount.1; omega, hcount.2⟩
  | inProgress | completed | failed =>
    rw [hstatus] at hclaimable
    cases hclaimable

theorem retryCount_le (h : job.IsSound) : 0 ≤ job.retryCount ∧ job.retryCount ≤ job.maxRetries := by
  have hcount := h.retryCount
  have hmax := h.maxRetries
  unfold JobStatus.Allows at hcount
  split at hcount <;> omega

theorem claimed (h : job.IsSound) (hclaimable : job.status.isClaimable) (now : Instant) :
    (job.claimed now).IsSound where
  retryCount := h.retryCount_of_isClaimable hclaimable
  maxRetries := h.maxRetries
  lastError := by
    have hstatus : job.status ≠ .completed := fun heq => by
      rw [heq] at hclaimable
      cases hclaimable
    have hsound := h.lastError
    simp only [hstatus, ne_eq, not_false_eq_true, and_true] at hsound
    simpa [Job.claimed] using hsound

/-- The row after an attempt of a job in progress. -/
theorem settled (h : job.IsSound) (hstatus : job.status = .inProgress) {write : Job → Job}
    (hsettles : job.Settles write) : (write job).IsSound := by
  have hcount : 0 ≤ job.retryCount ∧ job.retryCount < job.maxRetries := by
    have := h.retryCount
    rwa [hstatus] at this
  cases hsettles with
  | completed now => exact ⟨hcount, h.maxRetries, by simp [Job.completed]⟩
  | failed due summary now =>
    refine ⟨?_, h.maxRetries, ?_⟩
    · by_cases hlast : job.maxRetries ≤ job.retryCount + 1
      · have hnext : job.nextStatus = .failed := by
          simp [nextStatus, isLastAttempt, nextRetryCount, hlast]
        have : job.retryCount + 1 = job.maxRetries := by omega
        simpa [afterFailure, hnext, nextRetryCount, JobStatus.Allows] using this
      · have hnext : job.nextStatus = .retrying := by
          simp [nextStatus, isLastAttempt, nextRetryCount, hlast]
        have : 1 ≤ job.retryCount + 1 ∧ job.retryCount + 1 < job.maxRetries := by omega
        simpa [afterFailure, hnext, nextRetryCount, JobStatus.Allows] using this
    · have hpositive : 0 < job.retryCount + 1 := by omega
      simp [afterFailure, nextRetryCount, hpositive, job.nextStatus_ne_completed]

end IsSound

/-- The end of an attempt takes a job in progress to another state. -/
theorem Settles.next {write : Job → Job} (h : job.Settles write)
    (hstatus : job.status = .inProgress) : job.status.Next (write job).status := by
  rw [hstatus]
  cases h with
  | completed now => exact .complete
  | failed due summary now =>
    change JobStatus.Next .inProgress job.nextStatus
    unfold nextStatus
    split
    · exact .fail
    · exact .retry

end Job

/-! ## All rows -/

namespace Fleet

variable {f g : Fleet σ} {rule rule' : Rule σ}

/-- Every row of a job is sound. -/
def HasSoundJobs (f : Fleet σ) : Prop := ∀ job ∈ f.world.tables.jobs, job.IsSound

theorem HasSoundJobs.act (h : f.HasSoundJobs) (hserved : f.WellServed) (hcustody : f.InCustody)
    (q : Queue σ) (m : Move) : (f.act q m).HasSoundJobs := by
  have hmoves := act_jobMoves hserved q m
  generalize f.act q m = g at hmoves
  intro job hjob
  cases hmoves with
  | rests hjobs => exact h job (hjobs ▸ hjob)
  | inserts hnew _ hjobs =>
    rw [hjobs] at hjob
    obtain hjob | hjob := List.mem_append.1 hjob
    · exact h job hjob
    · obtain rfl := List.mem_singleton.1 hjob
      exact hnew.isSound
  | @claims g row now hmem hclaimable hwrite =>
    obtain hjob | ⟨found, hfound, rfl⟩ := hwrite.mem hjob
    · exact h job hjob
    · obtain rfl : row = found :=
        Option.some.inj ((Tables.job?_of_mem hcustody.ids hmem).symm.trans hfound)
      exact (h row hmem).claimed hclaimable now
  | @settles n answer g held before after write hn hout hsettles hbefore hwrite =>
    obtain hjob | ⟨found, hfound, rfl⟩ := hwrite.mem hjob
    · exact h job hjob
    · obtain ⟨hstatus, hrow⟩ := hcustody.rows held.job (by simp [hbefore])
      obtain rfl : held.job = found := Option.some.inj (hrow.symm.trans hfound)
      exact (h _ (Tables.mem_of_job? hrow)).settled hstatus hsettles

theorem Arises.hasSoundJobs (h : f.Arises rule) : f.HasSoundJobs :=
  (h.induction (P := fun f => f.WellServed ∧ f.InCustody ∧ f.HasSoundJobs)
    (fun now surroundings => ⟨wellServed_initial now surroundings, .initial now surroundings,
      fun _ hjob => by cases hjob⟩)
    fun _ q m _ hf => ⟨hf.1.act q m, hf.2.1.act hf.1 q m, hf.2.2.act hf.1 hf.2.1 q m⟩).2.2

/-- **One move** leaves a row as it is or takes it along an edge. -/
theorem InCustody.row_next (h : f.InCustody) (hserved : f.WellServed) (q : Queue σ) (m : Move)
    {id : Uuid} {job : Job} (hjob : f.world.tables.job? id = some job) :
    ∃ job', (f.act q m).world.tables.job? id = some job' ∧
      (job' = job ∨ job.status.Next job'.status) := by
  obtain rfl := Tables.id_of_job? hjob
  by_cases hsame : (f.act q m).world.tables.job? job.id = some job
  · exact ⟨job, hsame, .inl rfl⟩
  · obtain ⟨-, hclaimable, now, hrow⟩ | ⟨n, _, stage, write, -, hn, hout, hsettles, hrow⟩ :=
      h.writer hserved hjob hsame
    · exact ⟨_, hrow, .inr (JobStatus.next_of_isClaimable hclaimable)⟩
    · have hmem : job ∈ f.outstanding := mem_outstanding hn hout
      exact ⟨_, hrow, .inr (hsettles.next (h.rows job hmem).1)⟩

/-- A row that was not there before is the row of a new job. -/
theorem row_new (hserved : f.WellServed) (q : Queue σ) (m : Move) {id : Uuid} {job : Job}
    (hbefore : f.world.tables.job? id = none)
    (hjob : (f.act q m).world.tables.job? id = some job) : job.IsNew := by
  have hmoves := act_jobMoves hserved q m
  generalize f.act q m = g at hmoves hjob
  cases hmoves with
  | rests hjobs =>
    rw [Tables.job?_congr hjobs, hbefore] at hjob
    cases hjob
  | inserts hnew _ hjobs =>
    rw [Tables.job?_congr hjobs, Tables.job?_insertJob, hbefore, Option.none_or] at hjob
    split at hjob
    · obtain rfl := Option.some.inj hjob
      exact hnew
    · cases hjob
  | claims _ _ _ hwrite | settles _ _ _ _ hwrite =>
    rw [hwrite.job?_of_none hbefore] at hjob
    cases hjob

/-- A job that is completed or has failed never changes again. -/
theorem Leads.terminal (h : f.Leads rule g) (hf : f.Arises rule') {id : Uuid} {job : Job}
    (hjob : f.world.tables.job? id = some job) (hterminal : job.status.isTerminal) :
    g.world.tables.job? id = some job := by
  refine (h.induction (P := fun g => (g.WellServed ∧ g.InCustody) ∧
    g.world.tables.job? id = some job) (fun g q m _ hg => ?_)
    ⟨⟨hf.wellServed, hf.inCustody⟩, hjob⟩).2
  obtain ⟨⟨hserved, hcustody⟩, hrow⟩ := hg
  refine ⟨⟨hserved.act q m, hcustody.act hserved q m⟩, ?_⟩
  obtain ⟨job', hrow', rfl | hnext⟩ := hcustody.row_next hserved q m hrow
  · exact hrow'
  · rw [hnext.not_isTerminal] at hterminal
    cases hterminal

/-- **The life of jobs** over whole runs: every row is sound; every move keeps all rows, takes those
that it changes along an edge, and adds new jobs only; and completed and failed jobs stay as they
are in every fleet that comes later. -/
theorem job_lifecycle (h : f.Arises rule) :
    (∀ job ∈ f.world.tables.jobs, job.IsSound) ∧
      (∀ (q : Queue σ) (m : Move) (id : Uuid) (job : Job), f.world.tables.job? id = some job →
        ∃ job', (f.act q m).world.tables.job? id = some job' ∧
          (job' = job ∨ job.status.Next job'.status)) ∧
      (∀ (q : Queue σ) (m : Move) (id : Uuid) (job : Job), f.world.tables.job? id = none →
        (f.act q m).world.tables.job? id = some job → job.IsNew) ∧
      ∀ (rule' : Rule σ) (g : Fleet σ), f.Leads rule' g → ∀ (id : Uuid) (job : Job),
        f.world.tables.job? id = some job → job.status.isTerminal →
        g.world.tables.job? id = some job :=
  ⟨h.hasSoundJobs, fun q m _ _ hjob => h.inCustody.row_next h.wellServed q m hjob,
    fun q m _ _ hbefore hjob => row_new h.wellServed q m hbefore hjob,
    fun _ _ hleads _ _ hjob hterminal => hleads.terminal h hjob hterminal⟩

/-- A job that may be tried twice fails twice. -/
def exhausted : Fleet Unit :=
  plain
    [.schedule 2 (.plain none), .claim, .advance 0 (.error "refused"),
      .advance 0 (.error "refused"), .advance 0 (.error "refused"), .clock ⟨10000000000000⟩, .claim,
      .advance 1 (.error "refused"), .advance 1 (.error "refused"), .advance 1 (.error "refused")]

/-- It has failed for good, with both attempts counted. -/
theorem job_lifecycle_exhausted :
    exhausted.world.tables.jobs.map (fun job => (job.status, job.retryCount)) = [(.failed, 2)] ∧
      ∀ job ∈ exhausted.world.tables.jobs, job.IsSound := by
  have h := job_lifecycle (plain_arises (fun _ _ => trivial) _ : exhausted.Arises .free)
  exact ⟨by decide +kernel, h.1⟩

end Fleet

/-! ## Counts of 32 bits -/

namespace Phase

variable {limit : Int}

/-- The job of the request will have at most so many attempts. -/
def AsksAtMost (limit : Int) : Phase → Prop
  | key n | window n | insert n => n ≤ limit
  | _ => True

theorem start_asksAtMost {d : Int} {r : ScheduleRequest} (h : r.maxRetries.getD d ≤ limit) :
    (start d r).AsksAtMost limit := by
  apply start_elim
  · intro e _
    trivial
  · intro n hvalid
    exact (r.of_validate hvalid).1 ▸ h
  · intro n hvalid _
    exact (r.of_validate hvalid).1 ▸ h

/-- A request that asks for at most so many attempts adds no job with more. -/
theorem Steps.asksAtMost {q : Queue σ} {r : ScheduleRequest} {p p' : Phase} {w w' : World σ}
    (h : Steps q r (p, w) (p', w')) (hp : p.AsksAtMost limit)
    (hjobs : ∀ job ∈ w.tables.jobs, job.maxRetries ≤ limit) :
    p'.AsksAtMost limit ∧ ∀ job ∈ w'.tables.jobs, job.maxRetries ≤ limit := by
  cases h with
  | unknown _ hw | vacant _ hw => exact ⟨hp, hw.tables ▸ hjobs⟩
  | known _ hw | active _ hw | duplicate _ hw | won _ hw | refused _ _ hw =>
    exact ⟨trivial, hw.tables ▸ hjobs⟩
  | answered => exact ⟨trivial, hjobs⟩
  | created _ hw =>
    refine ⟨trivial, fun job hjob => ?_⟩
    rw [hw.tables] at hjob
    obtain hjob | hjob := List.mem_append.1 hjob
    · exact hjobs job hjob
    · obtain rfl := List.mem_singleton.1 hjob
      exact hp

end Phase

/-- The move brings no request for more than so many attempts. -/
def Move.AsksAtMost (limit : Int) : Move → Prop
  | schedule d r | request d r => r.maxRetries.getD d ≤ limit
  | _ => True

namespace Fleet

variable {f : Fleet σ} {rule : Rule σ} {limit : Int}

/-- No job has more than so many attempts, and no open request asks for more. -/
structure AllowsAtMost (limit : Int) (f : Fleet σ) : Prop where
  requests : ∀ r ∈ f.requests, r.phase.AsksAtMost limit
  jobs : ∀ job ∈ f.world.tables.jobs, job.maxRetries ≤ limit

namespace AllowsAtMost

theorem initial (limit : Int) (now : Instant) (surroundings : σ) :
    (Fleet.initial now surroundings).AllowsAtMost limit where
  requests _ hr := by cases hr
  jobs _ hjob := by cases hjob

/-- Writes that leave the attempts of a job alone keep the bound. -/
theorem jobs_of_rewrites {t t' : Tables} {id : Uuid} {write : Job → Job}
    (hwrite : t.Rewrites id write t') (hkeep : ∀ row, (write row).maxRetries = row.maxRetries)
    (h : ∀ job ∈ t.jobs, job.maxRetries ≤ limit) : ∀ job ∈ t'.jobs, job.maxRetries ≤ limit := by
  intro job hjob
  obtain hjob | ⟨row, hrow, rfl⟩ := hwrite.mem hjob
  · exact h job hjob
  · rw [hkeep]
    exact h row (Tables.mem_of_job? hrow)

/-- **One move** that brings no request for more attempts keeps the bound. -/
theorem act (h : f.AllowsAtMost limit) (q : Queue σ) {m : Move} (hm : m.AsksAtMost limit) :
    (f.act q m).AllowsAtMost limit := by
  have hmoves := act_moves q f m
  generalize f.act q m = g at hmoves
  cases hmoves with
  | clock => exact ⟨h.requests, h.jobs⟩
  | unserved | unadvanced => exact h
  | scheduled hsteps =>
    have hserved := Phase.steps_induction
      (P := fun p w => p.AsksAtMost limit ∧ ∀ job ∈ w.tables.jobs, job.maxRetries ≤ limit)
      (fun _ _ _ _ hstep hbefore => hstep.asksAtMost hbefore.1 hbefore.2) hsteps
      ⟨Phase.start_asksAtMost hm, h.jobs⟩
    exact ⟨h.requests, hserved.2⟩
  | requested =>
    refine ⟨fun r hr => ?_, h.jobs⟩
    obtain hr | hr := List.mem_append.1 hr
    · exact h.requests r hr
    · obtain rfl := List.mem_singleton.1 hr
      exact Phase.start_asksAtMost hm
  | served hn hstep =>
    obtain ⟨hphase, hjobs⟩ := hstep.asksAtMost (h.requests _ (List.mem_of_getElem? hn)) h.jobs
    refine ⟨fun r hr => ?_, hjobs⟩
    obtain hr | rfl := List.mem_or_eq_of_mem_set hr
    · exact h.requests r hr
    · exact hphase
  | claimed _ hw =>
    exact ⟨h.requests,
      jobs_of_rewrites (Tables.rewrites_withClaim hw.tables) (fun _ => rfl) h.jobs⟩
  | unclaimed _ hw => exact ⟨h.requests, hw.tables ▸ h.jobs⟩
  | advanced _ hstep =>
    obtain ⟨-, hjobs⟩ | ⟨-, -, write, hsettles, hwrite⟩ := hstep.row
    · exact ⟨h.requests, hjobs ▸ h.jobs⟩
    · exact ⟨h.requests, jobs_of_rewrites hwrite hsettles.maxRetries_eq h.jobs⟩

end AllowsAtMost

/-- **Counts of attempts fit.** Where every request asks for a number of attempts that 32 bits can
hold, the counts of every row are such numbers, and so is the count after one more failure of an
outstanding job, which is the only sum of counts that a consumer makes. -/
theorem Arises.counts_fit (h : f.Arises rule)
    (hrule : ∀ f q m, rule f q m → m.AsksAtMost (Number.maxSigned 32)) :
    (∀ job ∈ f.world.tables.jobs, 0 ≤ job.retryCount ∧ job.retryCount ≤ job.maxRetries ∧
      job.maxRetries ≤ Number.maxSigned 32) ∧
    ∀ job ∈ f.outstanding, 0 < job.nextRetryCount ∧ job.nextRetryCount ≤ Number.maxSigned 32 := by
  have hallows : f.AllowsAtMost (Number.maxSigned 32) :=
    h.induction (fun now surroundings => .initial _ now surroundings)
      fun f q m hm hf => hf.act q (hrule f q m hm)
  have hsound := h.hasSoundJobs
  refine ⟨fun job hjob => ?_, fun job hjob => ?_⟩
  · obtain ⟨hpositive, hle⟩ := (hsound job hjob).retryCount_le
    exact ⟨hpositive, hle, hallows.jobs job hjob⟩
  · obtain ⟨hstatus, hrow⟩ := h.inCustody.rows job hjob
    have hmem := Tables.mem_of_job? hrow
    have hcount := (hsound job hmem).retryCount
    rw [hstatus] at hcount
    obtain ⟨hpositive, hlt⟩ := hcount
    have hmax := hallows.jobs job hmem
    unfold Job.nextRetryCount
    omega

end Fleet

end SyncQueue
