import Mathlib.Data.List.Basic
import SyncQueue.Proofs.Moves

/-!
# What moves do to jobs

Seen from the jobs, a fleet makes three kinds of moves: a job is added, a job is claimed, or the
attempt of a claimed job is settled, which writes its row. All other moves leave the jobs alone
(`Fleet.JobMoves`, `Fleet.act_jobMoves`).

A claimed job is outstanding until its attempt has been finalized or the job has been returned
(`Fleet.outstanding`). A job whose consumer gave it up is outstanding forever.
-/

namespace SyncQueue

open Time (Instant)
open Relation (ReflTransGen)

variable {σ : Type}

/-! ## Requests -/

/-- A job as scheduling creates it. -/
structure Job.IsNew (job : Job) : Prop where
  status : job.status = .pending
  retryCount : job.retryCount = 0
  maxRetries : 1 ≤ job.maxRetries
  lastError : job.lastError = none

/-- A valid request asks for the number of attempts that its job will have. -/
theorem ScheduleRequest.of_validate {r : ScheduleRequest} {d n : Int} (h : r.validate d = .ok n) :
    n = r.maxRetries.getD d ∧ 1 ≤ n := by
  unfold validate at h
  split at h
  · cases h
  · dsimp only at h
    split at h
    · cases h
    · cases h
      exact ⟨rfl, by omega⟩

namespace Phase

/-- The job of the request will have at least one attempt. -/
def HasBudget : Phase → Prop
  | key n | window n | insert n => 1 ≤ n
  | _ => True

theorem start_hasBudget (d : Int) (r : ScheduleRequest) : (start d r).HasBudget := by
  apply start_elim
  · intro e _
    trivial
  · intro n hvalid
    exact (r.of_validate hvalid).2
  · intro n hvalid _
    exact (r.of_validate hvalid).2

end Phase

namespace Phase.Steps

variable {q : Queue σ} {r : ScheduleRequest} {p p' : Phase} {w w' : World σ}

theorem hasBudget (h : Steps q r (p, w) (p', w')) (hp : p.HasBudget) : p'.HasBudget := by
  cases h <;> trivial

/-- A request adds its job, which answers it, or leaves the jobs alone. -/
theorem jobs (h : Steps q r (p, w) (p', w')) (hp : p.HasBudget) :
    w'.tables.jobs = w.tables.jobs ∨
      ∃ job, p' = .done (.ok ⟨job, true⟩) ∧ job.IsNew ∧ w.tables.job? job.id = none ∧
        w'.tables.jobs = (w.tables.insertJob job).jobs := by
  cases h with
  | known _ hw | unknown _ hw | active _ hw | vacant _ hw | duplicate _ hw | won _ hw
  | refused _ _ hw =>
    exact .inl (congrArg _ hw.tables)
  | answered => exact .inl rfl
  | created hnone hw =>
    refine .inr ⟨_, rfl, ⟨rfl, rfl, hp, rfl⟩, ?_, congrArg _ hw.tables⟩
    exact (Tables.conflict?_eq_none hnone).2

end Phase.Steps

/-- The attempt that a claim begins: the job, and the number of its attempts before. -/
def Deed.attempt? : Deed → Option (Uuid × Int)
  | .claimed job _ => some (job.id, job.retryCount)
  | _ => none

namespace Fleet

/-- Every open request asks for a job with at least one attempt. -/
def WellServed (f : Fleet σ) : Prop := ∀ r ∈ f.requests, r.phase.HasBudget

theorem wellServed_initial (now : Instant) (surroundings : σ) :
    (initial now surroundings).WellServed := fun _ h => by cases h

theorem WellServed.act {f : Fleet σ} (h : f.WellServed) (q : Queue σ) (m : Move) :
    (f.act q m).WellServed := by
  have hmoves := act_moves q f m
  generalize f.act q m = g at hmoves
  cases hmoves with
  | clock | scheduled | unserved | claimed | unclaimed | advanced | unadvanced => exact h
  | requested =>
    intro r hr
    obtain hr | hr := List.mem_append.1 hr
    · exact h r hr
    · obtain rfl := List.mem_singleton.1 hr
      exact Phase.start_hasBudget _ _
  | served hn hstep =>
    intro r hr
    obtain hr | rfl := List.mem_or_eq_of_mem_set hr
    · exact h r hr
    · exact hstep.hasBudget (h _ (List.mem_of_getElem? hn))

/-! ## Held jobs and claims -/

/-- The claimed jobs whose attempts have neither been finalized nor ended with the return of the
job. -/
def outstanding (f : Fleet σ) : List Job := (f.held.filter (·.stage.isOutstanding)).map (·.job)

theorem mem_outstanding {f : Fleet σ} {n : Nat} {h : HeldJob} (hn : f.held[n]? = some h)
    (hout : h.stage.isOutstanding) : h.job ∈ f.outstanding :=
  List.mem_map.2 ⟨h, List.mem_filter.2 ⟨List.mem_of_getElem? hn, hout⟩, rfl⟩

/-- The attempts that have been claimed, newest first. -/
def attempts (f : Fleet σ) : List (Uuid × Int) := f.history.filterMap Deed.attempt?

theorem attempts_requestDeeds (r : ScheduleRequest) (p p' : Phase) :
    (requestDeeds r p p').filterMap Deed.attempt? = [] := by
  unfold requestDeeds
  split <;> rfl

theorem attempts_attemptDeeds (job : Job) (stage stage' : AttemptStage) :
    (attemptDeeds job stage stage').filterMap Deed.attempt? = [] := by
  unfold attemptDeeds
  split <;> rfl

/-! ## Moves -/

/-- What a move does to the jobs. -/
inductive JobMoves (f : Fleet σ) : Move → Fleet σ → Prop where
  | rests {m : Move} {g : Fleet σ} (jobs : g.world.tables.jobs = f.world.tables.jobs)
      (outstanding : g.outstanding = f.outstanding) (attempts : g.attempts = f.attempts) :
      JobMoves f m g
  | inserts {m : Move} {g : Fleet σ} {job : Job} (hnew : job.IsNew)
      (hfresh : f.world.tables.job? job.id = none)
      (jobs : g.world.tables.jobs = (f.world.tables.insertJob job).jobs)
      (outstanding : g.outstanding = f.outstanding) (attempts : g.attempts = f.attempts) :
      JobMoves f m g
  | claims {g : Fleet σ} {job : Job} (now : Instant) (hmem : job ∈ f.world.tables.jobs)
      (hclaimable : job.status.isClaimable)
      (hwrite : f.world.tables.Rewrites job.id (·.claimed now) g.world.tables)
      (outstanding : g.outstanding = f.outstanding ++ [job.claimed now])
      (attempts : g.attempts = (job.id, job.retryCount) :: f.attempts) :
      JobMoves f .claim g
  | settles {n : Nat} {answer : Answer} {g : Fleet σ} {h : HeldJob} {before after : List Job}
      {write : Job → Job} (hn : f.held[n]? = some h) (hout : h.stage.isOutstanding)
      (hsettles : h.job.Settles write) (hbefore : f.outstanding = before ++ h.job :: after)
      (hwrite : f.world.tables.Rewrites h.job.id write g.world.tables)
      (outstanding : g.outstanding = before ++ after) (attempts : g.attempts = f.attempts) :
      JobMoves f (.advance n answer) g

/-- The outstanding jobs after an attempt has made a step. -/
theorem outstanding_set {held : List HeldJob} {n : Nat} {h : HeldJob} (stage : AttemptStage)
    (hn : held[n]? = some h) :
    ∃ before after : List Job,
      (held.filter (·.stage.isOutstanding)).map (·.job) =
        before ++ (if h.stage.isOutstanding then [h.job] else []) ++ after ∧
      ((held.set n ⟨h.job, stage⟩).filter (·.stage.isOutstanding)).map (·.job) =
        before ++ (if stage.isOutstanding then [h.job] else []) ++ after := by
  induction held generalizing n with
  | nil => simp at hn
  | cons a held ih =>
    cases n with
    | zero =>
      obtain rfl : a = h := by simpa using hn
      refine ⟨[], (held.filter (·.stage.isOutstanding)).map (·.job), ?_, ?_⟩
      · cases hout : a.stage.isOutstanding <;> simp [hout]
      · cases hout : stage.isOutstanding <;> simp [hout]
    | succ n =>
      obtain ⟨before, after, hbefore, hafter⟩ := ih (by simpa using hn)
      refine ⟨(if a.stage.isOutstanding then [a.job] else []) ++ before, after, ?_, ?_⟩
      · cases hout : a.stage.isOutstanding <;> simp [hout, hbefore]
      · cases hout : a.stage.isOutstanding <;> simp [hout, hafter]

/-- Serving a request without a break adds one job at most. -/
theorem schedule_jobs {q : Queue σ} {r : ScheduleRequest} {d : Int} {w w' : World σ} {p : Phase}
    (h : ReflTransGen (Phase.Steps q r) (.start d r, w) (p, w')) :
    w'.tables.jobs = w.tables.jobs ∨
      ∃ job : Job, job.IsNew ∧ w.tables.job? job.id = none ∧
        w'.tables.jobs = (w.tables.insertJob job).jobs := by
  -- after the insert the request has been answered, and its steps change nothing any more
  have hrun : (p.HasBudget ∧ w'.tables.jobs = w.tables.jobs) ∨
      ((∃ answer, p = .done answer) ∧ ∃ job : Job, job.IsNew ∧ w.tables.job? job.id = none ∧
        w'.tables.jobs = (w.tables.insertJob job).jobs) := by
    refine Phase.steps_induction (P := fun p w' =>
      (p.HasBudget ∧ w'.tables.jobs = w.tables.jobs) ∨
      ((∃ answer, p = .done answer) ∧ ∃ job : Job, job.IsNew ∧ w.tables.job? job.id = none ∧
        w'.tables.jobs = (w.tables.insertJob job).jobs))
      (fun p₁ w₁ p₂ w₂ hstep hfirst => ?_) h (.inl ⟨Phase.start_hasBudget d r, rfl⟩)
    obtain ⟨hbudget, hsame⟩ | ⟨⟨answer, rfl⟩, hjob⟩ := hfirst
    · obtain hkeep | ⟨job, rfl, hnew, hfresh, hinsert⟩ := hstep.jobs hbudget
      · exact .inl ⟨hstep.hasBudget hbudget, hkeep.trans hsame⟩
      · refine .inr ⟨⟨_, rfl⟩, job, hnew, ?_, ?_⟩
        · rw [← hfresh, Tables.job?, Tables.job?, hsame]
        · rw [hinsert, Tables.insertJob, Tables.insertJob, hsame]
    · cases hstep with
      | refused hp => cases hp
      | answered => exact .inr ⟨⟨_, rfl⟩, hjob⟩
  obtain ⟨-, hsame⟩ | ⟨-, hjob⟩ := hrun
  · exact .inl hsame
  · exact .inr hjob

/-- **Every move** adds a job, claims a job or settles the attempt of a job, and does no more to the
jobs than that. -/
theorem act_jobMoves {f : Fleet σ} (hserved : f.WellServed) (q : Queue σ) (m : Move) :
    JobMoves f m (f.act q m) := by
  have hmoves := act_moves q f m
  generalize f.act q m = g at hmoves
  cases hmoves with
  | clock | requested | unserved | unadvanced => exact .rests rfl rfl rfl
  | scheduled h =>
    obtain hsame | ⟨job, hnew, hfresh, hjobs⟩ := schedule_jobs h
    · exact .rests hsame rfl rfl
    · exact .inserts hnew hfresh hjobs rfl rfl
  | served hn h =>
    have hattempts : ∀ p p' r, (requestDeeds r p p' ++ f.history).filterMap Deed.attempt? =
        f.attempts := fun p p' r => by
      rw [List.filterMap_append, attempts_requestDeeds, List.nil_append, attempts]
    obtain hsame | ⟨job, -, hnew, hfresh, hjobs⟩ :=
      h.jobs (hserved _ (List.mem_of_getElem? hn))
    · exact .rests hsame rfl (hattempts ..)
    · exact .inserts hnew hfresh hjobs rfl (hattempts ..)
  | @claimed job w hbest hw =>
    refine .claims f.world.now (Tables.mem_of_best? hbest).1 (Tables.isClaimable_of_best? hbest)
      (Tables.rewrites_withClaim hw.tables) ?_ rfl
    simp [outstanding, AttemptStage.isOutstanding]
  | unclaimed _ hw => exact .rests (congrArg _ hw.tables) rfl rfl
  | @advanced n answer h stage w hn hstep =>
    have hattempts : (attemptDeeds h.job h.stage stage ++ f.history).filterMap Deed.attempt? =
        f.attempts := by
      rw [List.filterMap_append, attempts_attemptDeeds, List.nil_append, attempts]
    obtain ⟨before, after, hbefore, hafter⟩ := outstanding_set stage hn
    obtain ⟨hsame, hjobs⟩ | ⟨hout, hend, write, hsettles, hwrite⟩ := hstep.row
    · rw [hsame, ← hbefore] at hafter
      exact .rests hjobs hafter hattempts
    · rw [hout, if_pos rfl, List.append_assoc] at hbefore
      rw [hend, if_neg Bool.false_ne_true, List.append_nil] at hafter
      exact .settles hn hout hsettles hbefore hwrite hafter hattempts

end Fleet

end SyncQueue
