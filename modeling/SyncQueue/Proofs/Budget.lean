import Mathlib.Algebra.GroupWithZero.Nat
import Mathlib.Data.Nat.Find
import SyncQueue.Proofs.Loop

/-!
# A tick ends

A tick claims until nothing is eligible, and a job that fails may be due again at once: after a
delay of zero, or because the clock has moved. It ends all the same, since every attempt uses up one
of the attempts that the claimable jobs allow for. This is so whatever the executors answer,
whatever the store refuses and whatever happens meanwhile, as long as nobody else writes the rows of
jobs.

* `Tables.claimBudget_rewrites`: what one write does to the attempts that are left.
* `LoopPoint.step_spends`: a step of the loop uses up an attempt, or comes nearer to the next one.
* `LoopPoint.run_spends`: the same for a run, in which others go on between the steps.
* `Queue.tick_ends`: how many jobs a tick processes, and that it ends.
-/

namespace SyncQueue

open Time (Instant)
open Queue (claimBudget)

variable {σ : Type}

/-! ## Attempts that are left -/

namespace Job

/-- The attempts that a claimable job allows for. -/
def budget (job : Job) : Nat := max 1 (job.maxRetries - job.retryCount).toNat

/-- The attempts that a row allows for. -/
def allowance (job : Job) : Nat := if job.status.isClaimable then job.budget else 0

theorem one_le_budget (job : Job) : 1 ≤ job.budget := Nat.le_max_left ..

/-- The end of an attempt leaves at least one attempt less than before the job was claimed. -/
theorem Settles.allowance_lt {job : Job} {write : Job → Job} (h : job.Settles write) :
    (write job).allowance < job.budget := by
  have hone := job.one_le_budget
  cases h with
  | completed now =>
    have hdone : (job.completed now).allowance = 0 := rfl
    change (job.completed now).allowance < _
    rwa [hdone]
  | failed due summary now =>
    cases hlast : job.isLastAttempt with
    | true =>
      have hfailed : (job.afterFailure due summary now job).allowance = 0 := by
        simp [allowance, afterFailure, nextStatus, hlast, JobStatus.isClaimable]
      rwa [hfailed]
    | false =>
      have hretries : ¬job.maxRetries ≤ job.nextRetryCount := of_decide_eq_false hlast
      rw [nextRetryCount] at hretries
      have hagain : (job.afterFailure due summary now job).allowance =
          max 1 (job.maxRetries - (job.retryCount + 1)).toNat := by
        simp [allowance, budget, afterFailure, nextStatus, nextRetryCount, hlast,
          JobStatus.isClaimable]
      rw [hagain, budget]
      omega

end Job

namespace Tables

variable {t t' : Tables} {job : Job}

theorem claimBudget_eq (t : Tables) : claimBudget t = (t.jobs.map (·.allowance)).sum := by
  unfold claimBudget
  induction t.jobs with
  | nil => rfl
  | cons job jobs ih =>
    rw [List.map_cons, List.sum_cons, ← ih]
    cases hclaimable : job.status.isClaimable with
    | true => simp [hclaimable, Job.allowance, Job.budget]
    | false => simp [hclaimable, Job.allowance]

/-- The attempts that are left depend on the rows of jobs only. -/
theorem claimBudget_congr (h : t'.jobs = t.jobs) : claimBudget t' = claimBudget t := by
  rw [claimBudget, h, claimBudget]

/-- **A write** of one row changes what that row allows for. -/
theorem claimBudget_rewrites {write : Job → Job} (h : t.Rewrites job.id write t')
    (hrow : t.job? job.id = some job) :
    claimBudget t' + job.allowance = claimBudget t + (write job).allowance := by
  obtain ⟨before, after, hbefore, hafter⟩ := h.split hrow
  rw [claimBudget_eq, claimBudget_eq, hbefore, hafter]
  simp only [List.map_append, List.map_cons, List.sum_append, List.sum_cons]
  omega

end Tables

/-! ## One step of an attempt -/

/-- The executor leaves the rows of jobs alone. -/
def Executor.LeavesJobs (executor : Executor σ) : Prop :=
  ∀ job w, (executor job w).2.tables.jobs = w.tables.jobs

namespace AttemptStage

variable {q : Queue σ} {executor : Executor σ} {job : Job} {stage stage' : AttemptStage}
  {w w' : World σ}

/-- The steps that an attempt can still take, at most. -/
def height : AttemptStage → Nat
  | claimed => 7
  | executing _ => 6
  | executed _ _ _ retries => retries + 3
  | failed .. => 2
  | unlogged .. => 1
  | ended _ | stranded _ => 0

theorem Steps.height_lt {answer : Answer} (h : Steps q job answer w stage stage' w')
    (hopen : stage.isOpen) : stage'.height < stage.height := by
  cases h with
  | rests hended =>
    rw [hopen] at hended
    cases hended
  | begins | executes | finalizes | repeats | fails | returns | unlogs | returnsRow | strands =>
    simp [height, Queue.finalizeRetries]

theorem isOpen_of_answer? (h : stage.answer? = none) : stage.isOpen := by
  cases stage <;> first | rfl | cases h

/-- What a step of an attempt spends: it comes nearer to the end, and it writes the row of the job
at the end only. -/
structure Spends (job : Job) (t : Tables) (stage stage' : AttemptStage) (t' : Tables) : Prop where
  height : stage'.height < stage.height
  jobs : t'.jobs = t.jobs ∨
    stage'.isOpen = false ∧ ∃ write, job.Settles write ∧ t.Rewrites job.id write t'

theorem Steps.spends {answer : Answer} (h : Steps q job answer w stage stage' w')
    (hopen : stage.isOpen) : Spends job w.tables stage stage' w'.tables := by
  refine ⟨h.height_lt hopen, ?_⟩
  obtain ⟨-, hjobs⟩ | ⟨-, hsettled, hwrite⟩ := h.row
  · exact .inl hjobs
  · refine .inr ⟨?_, hwrite⟩
    rw [← Bool.not_eq_true]
    intro hopen'
    rw [isOutstanding_of_isOpen hopen'] at hsettled
    cases hsettled

/-- **A step of an attempt** spends something, whatever else the executor does to the world. -/
theorem step_spends (hexecutor : executor.LeavesJobs) (hopen : stage.isOpen) (q : Queue σ)
    (job : Job) (w : World σ) :
    Meets (stage.step q executor job) w
      (fun stage' w' => Spends job w.tables stage stage' w'.tables) fun _ _ => False := by
  have hother (h : stage.step q executor job = stage.step q (fun _ w => (.error "", w)) job) :
      Meets (stage.step q executor job) w
        (fun stage' w' => Spends job w.tables stage stage' w'.tables) fun _ _ => False := by
    rw [h]
    exact (step_meets q job (.error "") stage w).mono (fun _ _ h => h.spends hopen) fun _ _ h => h
  cases stage with
  | executing startedAt =>
    refine (Queue.execute_meets executor job w).bind_total fun result w₁ h₁ => ?_
    refine Meets.bind_total (Meets.clock (P := fun _ w' => w' = w₁) rfl) fun now w₂ h₂ => ?_
    subst h₂
    refine Meets.emit_bind fun w₃ h₃ => ?_
    refine ⟨by simp [height, Queue.finalizeRetries], .inl ?_⟩
    rw [h₃.tables, h₁.2.tables]
    exact hexecutor job w
  | _ => exact hother rfl

end AttemptStage

/-! ## One step of the loop -/

namespace LoopPoint

variable {q : Queue σ} {executor : Executor σ} {consumer : Nat} {p p' : LoopPoint} {t : Tables}
  {w w' : World σ}

/-- The loop is inside a tick. -/
def isInTick : LoopPoint → Bool
  | poll | ended _ | sleep | returned => false
  | _ => true

/-- The job that has been claimed and whose attempt has not ended. -/
def claimed? : LoopPoint → Option Job
  | start _ job | attempt _ job _ _ => some job
  | _ => none

/-- The attempts that the claimed job still allows for, the one that is made not counted. -/
def reserve : LoopPoint → Nat
  | start _ job => job.budget
  | attempt _ job _ _ => job.budget - 1
  | _ => 0

/-- The attempts that can still begin, at most. -/
def left (p : LoopPoint) (t : Tables) : Nat := claimBudget t + p.reserve

/-- The attempts that the next step begins. -/
def begins : LoopPoint → Nat
  | start .. => 1
  | _ => 0

/-- The attempts that the tick has begun, or processed when it has ended. -/
def begun : LoopPoint → Nat
  | test n | mark n | claim n | claiming n | start n _ | again n => n
  | attempt n _ _ _ | unmark n _ => n + 1
  | leave (.ok n) | unlock (.ok n) | ended (.ok n) => n
  | _ => 0

/-- The steps until the tick ends or the next attempt begins, at most. -/
def height : LoopPoint → Nat
  | poll | ended _ | sleep | returned => 0
  | unlock _ => 1
  | leave _ | start _ _ => 2
  | claiming _ => 3
  | claim _ => 4
  | mark _ => 5
  | test _ => 6
  | again _ | lock => 7
  | enter | unmark _ _ => 8
  | attempt _ _ _ stage => stage.height + 8

/-- The rows of jobs have identifiers that are all different, and the row of a claimed job is as it
was claimed while its attempt goes on. -/
structure Holds (p : LoopPoint) (t : Tables) : Prop where
  ids : (t.jobs.map (·.id)).Nodup
  row : ∀ job, p.claimed? = some job → t.job? job.id = some job
  stage : ∀ n job around stage, p = attempt n job around stage → stage.isOpen

theorem reserve_of_none (h : p.claimed? = none) : p.reserve = 0 := by
  cases p <;> first | rfl | cases h

theorem Holds.of_none (hids : (t.jobs.map (·.id)).Nodup) (hp : p.claimed? = none) : p.Holds t where
  ids := hids
  row := fun job hjob => by rw [hp] at hjob; cases hjob
  stage := fun n job around stage hstage => by subst hstage; cases hp

theorem Holds.congr {t' : Tables} (h : p.Holds t) (hjobs : t'.jobs = t.jobs) : p.Holds t' where
  ids := by rw [hjobs]; exact h.ids
  row := fun job hjob => by rw [Tables.job?_congr hjobs]; exact h.row job hjob
  stage := h.stage

theorem left_congr {t' : Tables} (hjobs : t'.jobs = t.jobs) : p.left t' = p.left t := by
  rw [left, Tables.claimBudget_congr hjobs, left]

/-- What a step of the loop spends: an attempt that begins, or else some height. -/
structure Spends (p : LoopPoint) (t : Tables) (p' : LoopPoint) (t' : Tables) : Prop where
  holds : p'.Holds t'
  left : p'.left t' + p.begins ≤ p.left t
  begun : p'.begun ≤ p.begun + p.begins
  height : p.isInTick → p'.height < p.height + 14 * p.begins
  ends : p.isInTick → p'.isInTick = false → ∃ outcome, p' = ended outcome

/-- A step that leaves the rows of jobs alone and leads to a point without a claimed job. -/
theorem Spends.rests (hids : (t.jobs.map (·.id)).Nodup) {t' : Tables} (hjobs : t'.jobs = t.jobs)
    (hp' : p'.claimed? = none) (hbegins : p.begins = 0) (hbegun : p'.begun ≤ p.begun)
    (hheight : p.isInTick → p'.height < p.height)
    (hends : p.isInTick → p'.isInTick = false → ∃ outcome, p' = ended outcome) :
    Spends p t p' t' where
  holds := .of_none (by rwa [hjobs]) hp'
  left := by
    rw [LoopPoint.left, LoopPoint.left, Tables.claimBudget_congr hjobs, reserve_of_none hp',
      hbegins]
    omega
  begun := by rwa [hbegins]
  height := by rwa [hbegins]
  ends := hends

/-- The claim takes what the job allows for out of the tables. -/
theorem spends_claim {n : Nat} {job : Job} (h : (claiming n).Holds w.tables) (now : Instant)
    (hjob : job ∈ w.tables.jobs) (hclaimable : job.status.isClaimable)
    (hwrites : w.Becomes (w.tables.withClaim job.id now) w.events w') :
    Spends (claiming n) w.tables (start n (job.claimed now)) w'.tables := by
  have hrow := Tables.job?_of_mem h.ids hjob
  have hwrite := Tables.rewrites_withClaim hwrites.tables
  have hbudget := Tables.claimBudget_rewrites hwrite hrow
  have hbefore : job.allowance = job.budget := if_pos hclaimable
  have hafter : (job.claimed now).allowance = 0 := rfl
  have hreserve : (start n (job.claimed now)).reserve = job.budget := rfl
  refine ⟨⟨?_, ?_, ?_⟩, ?_, Nat.le_refl n, fun _ => ?_, fun _ hended => ?_⟩
  · rw [hwrite.ids]
    exact h.ids
  · rintro held ⟨⟩
    exact hwrite.job?_self hrow
  · intro n' job' around stage hstage
    cases hstage
  · rw [left, left, hreserve]
    change _ + 0 ≤ claimBudget w.tables + 0
    omega
  · change 2 < 3
    omega
  · cases hended

/-- The beginning of an attempt uses it up. -/
theorem spends_start {n : Nat} {job : Job} {around : Option Job}
    (h : (start n job).Holds w.tables) (hjobs : w'.tables.jobs = w.tables.jobs) :
    Spends (start n job) w.tables (attempt n job around .claimed) w'.tables := by
  have hone := job.one_le_budget
  have h' := h.congr hjobs
  refine ⟨⟨h'.ids, h'.row, ?_⟩, ?_, Nat.le_refl (n + 1), fun _ => ?_, fun _ hended => ?_⟩
  · rintro n' job' around' stage ⟨⟩
    rfl
  · rw [left, left, Tables.claimBudget_congr hjobs]
    change _ + (job.budget - 1) + 1 ≤ _ + job.budget
    omega
  · change 7 + 8 < 2 + 14 * 1
    omega
  · cases hended

/-- A step of an attempt leads on in it, or out of it. -/
theorem spends_attempt {n : Nat} {job : Job} {around : Option Job} {stage stage' : AttemptStage}
    (h : (attempt n job around stage).Holds w.tables)
    (hstage : AttemptStage.Spends job w.tables stage stage' w'.tables) :
    (stage'.answer? = none →
      Spends (attempt n job around stage) w.tables (attempt n job around stage') w'.tables) ∧
    ∀ answer, stage'.answer? = some answer →
      Spends (attempt n job around stage) w.tables (unmark n answer) w'.tables := by
  have hrow := h.row job rfl
  have hopen := h.stage n job around stage rfl
  constructor
  · intro hanswer
    have hopen' := AttemptStage.isOpen_of_answer? hanswer
    obtain hjobs | ⟨hended, -⟩ := hstage.jobs
    · have h' := h.congr hjobs
      refine ⟨⟨h'.ids, h'.row, ?_⟩, ?_, Nat.le_refl (n + 1), fun _ => ?_, fun _ hended => ?_⟩
      · rintro n' job' around' stage'' ⟨⟩
        exact hopen'
      · exact Nat.le_of_eq (left_congr (p := attempt n job around stage) hjobs)
      · have := hstage.height
        change stage'.height + 8 < stage.height + 8
        omega
      · cases hended
    · rw [hopen'] at hended
      cases hended
  · intro answer _
    have hbelow : claimBudget w'.tables ≤ claimBudget w.tables + (job.budget - 1) := by
      obtain hjobs | ⟨-, write, hsettles, hwrite⟩ := hstage.jobs
      · rw [Tables.claimBudget_congr hjobs]
        omega
      · have hbudget := Tables.claimBudget_rewrites hwrite hrow
        have hsettled := hsettles.allowance_lt
        omega
    have hids : (w'.tables.jobs.map (·.id)).Nodup := by
      obtain hjobs | ⟨-, write, -, hwrite⟩ := hstage.jobs
      · rw [hjobs]
        exact h.ids
      · rw [hwrite.ids]
        exact h.ids
    refine ⟨.of_none hids rfl, hbelow, Nat.le_refl (n + 1), fun _ => ?_, fun _ hended => ?_⟩
    · have := hstage.height
      change 8 < stage.height + 8
      omega
    · cases hended

/-- **A step of the loop** spends something, whatever the executor answers and the store refuses. -/
theorem step_spends (hexecutor : executor.LeavesJobs) (h : p.Holds w.tables) (q : Queue σ)
    (consumer : Nat) :
    Meets (p.step q consumer executor) w (fun p' w' => Spends p w.tables p' w'.tables)
      fun _ _ => False := by
  -- a step inside a tick to a point of less height, and a step outside of ticks
  have hdown {p' : LoopPoint} {w' : World σ} (hjobs : w'.tables.jobs = w.tables.jobs)
      (hp' : p'.claimed? = none) (hbegins : p.begins = 0) (hbegun : p'.begun ≤ p.begun)
      (hheight : p'.height < p.height)
      (hends : p'.isInTick = false → ∃ outcome, p' = ended outcome) :
      Spends p w.tables p' w'.tables :=
    .rests h.ids hjobs hp' hbegins hbegun (fun _ => hheight) fun _ => hends
  have houtside {p' : LoopPoint} {w' : World σ} (hjobs : w'.tables.jobs = w.tables.jobs)
      (hp' : p'.claimed? = none) (hbegins : p.begins = 0) (hbegun : p'.begun = 0)
      (hp : p.isInTick = false) : Spends p w.tables p' w'.tables :=
    .rests h.ids hjobs hp' hbegins (by omega) (fun h => by rw [hp] at h; cases h)
      fun h => by rw [hp] at h; cases h
  cases p with
  | poll =>
    refine Meets.get_bind ?_
    split <;> exact houtside rfl rfl rfl rfl rfl
  | enter =>
    refine Meets.get_bind ?_
    split
    · exact hdown rfl rfl rfl (Nat.le_refl 0) (by decide) fun h => by cases h
    · exact hdown rfl rfl rfl (Nat.le_refl 0) (by decide) fun _ => ⟨_, rfl⟩
  | lock =>
    refine Meets.get_bind ?_
    split
    · exact hdown rfl rfl rfl (Nat.le_refl 0) (by decide) fun _ => ⟨_, rfl⟩
    · exact hdown rfl rfl rfl (Nat.le_refl 0) (by decide) fun h => by cases h
  | test n =>
    refine Meets.get_bind ?_
    split
    · exact hdown rfl rfl rfl (Nat.le_refl n) (Nat.lt_succ_self 5) fun h => by cases h
    · exact hdown rfl rfl rfl (Nat.le_refl n) (by change 1 < 6; omega) fun h => by cases h
  | mark n => exact hdown rfl rfl rfl (Nat.le_refl n) (Nat.lt_succ_self 4) fun h => by cases h
  | claim n => exact hdown rfl rfl rfl (Nat.le_refl n) (Nat.lt_succ_self 3) fun h => by cases h
  | claiming n =>
    refine Meets.recover (F := fun _ w' => w.Stays w') ?_ fun e w₁ h₁ => ?_
    · refine (q.claim_meets w).bind (fun claimed w₁ h₁ => ?_) fun _ _ h => h.1
      obtain ⟨rfl, -, h₁⟩ | ⟨job, rfl, hbest, h₁⟩ := h₁
      · exact hdown (congrArg _ h₁.tables) rfl rfl (Nat.le_refl n) (Nat.lt_succ_self 2)
          fun h => by cases h
      · exact spends_claim h w.now (Tables.mem_of_best? hbest).1
          (Tables.isClaimable_of_best? hbest) h₁
    · exact hdown (congrArg _ h₁.tables) rfl rfl (Nat.zero_le n) (Nat.lt_succ_self 2)
        fun h => by cases h
  | start n job => exact spends_start h rfl
  | attempt n job around stage =>
    refine (AttemptStage.step_spends hexecutor (h.stage n job around stage rfl) q job w).bind_total
      fun stage' w₁ h₁ => ?_
    obtain ⟨hopen, hended⟩ := spends_attempt h h₁
    cases hanswer : stage'.answer? with
    | none => exact hopen hanswer
    | some answer => exact hended answer hanswer
  | unmark n answer =>
    cases answer with
    | ok status =>
      exact hdown rfl rfl rfl (Nat.le_refl (n + 1)) (Nat.lt_succ_self 7) fun h => by cases h
    | error e =>
      exact hdown rfl rfl rfl (Nat.zero_le _) (by change 2 < 8; omega) fun h => by cases h
  | again n => exact hdown rfl rfl rfl (Nat.le_refl n) (Nat.lt_succ_self 6) fun h => by cases h
  | leave outcome =>
    refine hdown rfl rfl rfl ?_ (Nat.lt_succ_self 1) fun h => by cases h
    cases outcome <;> exact Nat.le_refl _
  | unlock outcome =>
    refine hdown rfl rfl rfl ?_ (Nat.lt_succ_self 0) fun _ => ⟨outcome, rfl⟩
    cases outcome <;> exact Nat.le_refl _
  | ended outcome =>
    cases outcome with
    | error e => exact houtside rfl rfl rfl rfl rfl
    | ok n =>
      simp only [step]
      split <;> exact houtside rfl rfl rfl rfl rfl
  | sleep => exact houtside rfl rfl rfl rfl rfl
  | returned => exact houtside rfl rfl rfl rfl rfl

/-! ## Runs -/

/-- Steps that follow one another without a break never raise the attempts that have begun or can
still begin. -/
theorem Runs.spends (hexecutor : executor.LeavesJobs) {x y : LoopPoint × World σ}
    (h : Runs q consumer executor x y) (hx : x.1.Holds x.2.tables) :
    y.1.Holds y.2.tables ∧
      y.1.begun + y.1.left y.2.tables ≤ x.1.begun + x.1.left x.2.tables := by
  induction h with
  | refl => exact ⟨hx, Nat.le_refl _⟩
  | tail _ hstep ih =>
    obtain ⟨hholds, hle⟩ := ih
    have hspends := (step_spends hexecutor hholds q consumer).ok_of_eq hstep
    have hleft := hspends.left
    have hbegun := hspends.begun
    exact ⟨hspends.holds, by omega⟩

end LoopPoint

/-- What comes with one step of the loop: a queue, an executor, and what happened before the step.
None of them writes the rows of jobs. -/
structure Turn (σ : Type) where
  queue : Queue σ
  executor : Executor σ
  meanwhile : World σ → World σ
  leavesJobs : executor.LeavesJobs
  meanwhile_jobs : ∀ w, (meanwhile w).tables.jobs = w.tables.jobs

namespace LoopPoint

/-- The point and the world after a turn. -/
def next (consumer : Nat) (turn : Turn σ) (x : LoopPoint × World σ) : LoopPoint × World σ :=
  match x.1.step turn.queue consumer turn.executor (turn.meanwhile x.2) with
  | .ok p w => (p, w)
  | .error _ w => (x.1, w)

/-- The point and the world after so many turns. -/
def run (consumer : Nat) (turns : Nat → Turn σ) (x : LoopPoint × World σ) :
    Nat → LoopPoint × World σ
  | 0 => x
  | k + 1 => next consumer (turns k) (run consumer turns x k)

/-- The number of attempts that begin in so many turns. -/
def attempts (consumer : Nat) (turns : Nat → Turn σ) (x : LoopPoint × World σ) : Nat → Nat
  | 0 => 0
  | k + 1 => attempts consumer turns x k + (run consumer turns x k).1.begins

variable {consumer : Nat} {turns : Nat → Turn σ} {x : LoopPoint × World σ}

theorem next_spends (consumer : Nat) (turn : Turn σ) (hx : x.1.Holds x.2.tables) :
    Spends x.1 x.2.tables (next consumer turn x).1 (next consumer turn x).2.tables := by
  have hjobs := turn.meanwhile_jobs x.2
  obtain ⟨p, w, hstep, hspends⟩ :=
    (step_spends turn.leavesJobs (hx.congr hjobs) turn.queue consumer).exists_ok
  have hnext : next consumer turn x = (p, w) := by rw [next, hstep]
  have hleft := hspends.left
  rw [left_congr hjobs] at hleft
  rw [hnext]
  exact ⟨hspends.holds, hleft, hspends.begun, hspends.height, hspends.ends⟩

/-- **A run** that has not left its tick has used up what its steps spent. -/
theorem run_spends (hx : x.1.Holds x.2.tables) {k : Nat}
    (hinside : ∀ i < k, (run consumer turns x i).1.isInTick) :
    let y := run consumer turns x k
    y.1.Holds y.2.tables ∧ y.1.left y.2.tables + attempts consumer turns x k ≤ x.1.left x.2.tables ∧
      y.1.begun ≤ x.1.begun + attempts consumer turns x k ∧
      k + y.1.height + 14 * y.1.left y.2.tables ≤ x.1.height + 14 * x.1.left x.2.tables := by
  induction k with
  | zero => exact ⟨hx, Nat.le_refl _, Nat.le_refl _, by simp [run]⟩
  | succ k ih =>
    obtain ⟨hholds, hleft, hbegun, hheight⟩ := ih fun i hi => hinside i (Nat.lt_succ_of_lt hi)
    have hspends := next_spends consumer (turns k) hholds
    have hleft' := hspends.left
    have hbegun' := hspends.begun
    have hheight' := hspends.height (hinside k (Nat.lt_succ_self k))
    refine ⟨hspends.holds, ?_, ?_, ?_⟩ <;> simp only [run, attempts] <;> omega

/-- **A tick** is left after a bounded number of turns. -/
theorem exists_ended (consumer : Nat) (turns : Nat → Turn σ) (hx : x.1.Holds x.2.tables)
    (hinside : x.1.isInTick) :
    ∃ k ≤ x.1.height + 14 * x.1.left x.2.tables, ∃ outcome,
      (run consumer turns x k).1 = .ended outcome ∧
        attempts consumer turns x k ≤ x.1.left x.2.tables ∧
        (run consumer turns x k).1.begun ≤ x.1.begun + attempts consumer turns x k := by
  have hleaves : ∃ k, (run consumer turns x k).1.isInTick = false := by
    by_contra hnever
    have hall : ∀ i, (run consumer turns x i).1.isInTick = true := by simpa using hnever
    obtain ⟨-, -, -, hlong⟩ := run_spends (k := x.1.height + 14 * x.1.left x.2.tables + 1) hx
      fun i _ => hall i
    omega
  have hbefore : ∀ i < Nat.find hleaves, (run consumer turns x i).1.isInTick := fun i hi => by
    simpa using Nat.find_min hleaves hi
  have hafter : (run consumer turns x (Nat.find hleaves)).1.isInTick = false :=
    Nat.find_spec hleaves
  generalize Nat.find hleaves = k at hbefore hafter
  obtain ⟨-, hleft, hbegun, hheight⟩ := run_spends hx hbefore
  refine ⟨k, by omega, ?_⟩
  cases k with
  | zero =>
    rw [run, hinside] at hafter
    cases hafter
  | succ k =>
    have hholds := (run_spends hx fun i hi => hbefore i (Nat.lt_succ_of_lt hi)).1
    obtain ⟨outcome, hended⟩ :=
      (next_spends consumer (turns k) hholds).ends (hbefore k (Nat.lt_succ_self k)) hafter
    exact ⟨outcome, hended, by omega, hbegun⟩

end LoopPoint

/-! ## Ticks -/

namespace Queue

/-- A tick by its own fuel: it ends, with at most so many jobs as were to be processed. -/
theorem tick_meets (q : Queue σ) (consumer : Nat) {executor : Executor σ}
    (hexecutor : executor.LeavesJobs) (patience : Nat) {w : World σ}
    (hids : (w.tables.jobs.map (·.id)).Nodup) :
    Meets (q.tick consumer executor patience) w
      (fun r _ => ∃ n ≤ claimBudget w.tables, r = some n) fun _ _ => True := by
  refine Meets.get_bind ?_
  dsimp only
  cases (w.flags consumer).active with
  | false => exact ⟨0, Nat.zero_le _, rfl⟩
  | true =>
    rw [if_neg (by simp)]
    cases (w.flags consumer).ticking with
    | true => exact ⟨0, Nat.zero_le _, rfl⟩
    | false =>
      rw [if_neg Bool.false_ne_true]
      refine Meets.modify_bind (Meets.finallyModify ?_)
      refine (LoopPoint.runs_drain _ 0 _).mono (fun r w₁ hruns => ?_) fun _ _ _ => trivial
      have hle := (hruns.spends hexecutor (.of_none hids rfl)).2
      change _ ≤ 0 + (claimBudget w.tables + 0) at hle
      cases r with
      | none =>
        change 0 + (claimBudget w.tables + patience + 1) + _ ≤ _ at hle
        omega
      | some n =>
        change n + _ ≤ _ at hle
        exact ⟨n, by omega, rfl⟩

/-- **A tick ends.** The attempts that the jobs allow for which are pending or to be retried at its
beginning bound the number of jobs that it processes.

1. A tick whose steps follow one another without a break ends by its own fuel, whatever the executor
   does other than write the rows of jobs, and whatever the store refuses.
2. So does a tick between whose steps others go on: they move the clock, change the delays and
   refuse statements as they like, but leave the rows of jobs alone. It ends after a bounded number
   of steps, and begins no more attempts than those that the jobs allow for. -/
theorem tick_ends (consumer : Nat) {w : World σ} (hids : (w.tables.jobs.map (·.id)).Nodup)
    {budget : Nat} (hbudget : budget = ((w.tables.jobs.filter (·.status.isClaimable)).map fun job =>
      max 1 (job.maxRetries - job.retryCount).toNat).sum) :
    (∀ (q : Queue σ) (executor : Executor σ) (patience : Nat), executor.LeavesJobs →
      (∃ n ≤ budget, ∃ w', q.tick consumer executor patience w = .ok (some n) w') ∨
        ∃ e w', q.tick consumer executor patience w = .error e w') ∧
    ∀ turns : Nat → Turn σ, ∃ k ≤ 14 * budget + 8, ∃ outcome,
      (LoopPoint.run consumer turns (.enter, w) k).1 = .ended outcome ∧
        LoopPoint.attempts consumer turns (.enter, w) k ≤ budget ∧
        ∀ n, outcome = .ok n → n ≤ LoopPoint.attempts consumer turns (.enter, w) k := by
  obtain rfl : budget = claimBudget w.tables := by
    rw [hbudget, claimBudget, ← List.foldr_map]
    rfl
  refine ⟨fun q executor patience hexecutor => ?_, fun turns => ?_⟩
  · have htick := q.tick_meets consumer hexecutor patience hids
    cases hrun : q.tick consumer executor patience w with
    | ok r w' =>
      obtain ⟨n, hn, rfl⟩ := htick.ok_of_eq hrun
      exact .inl ⟨n, hn, w', rfl⟩
    | error e w' => exact .inr ⟨e, w', rfl⟩
  · obtain ⟨k, hk, outcome, hended, hattempts, hbegun⟩ :=
      LoopPoint.exists_ended (x := (.enter, w)) consumer turns (.of_none hids rfl) rfl
    refine ⟨k, ?_, outcome, hended, hattempts, ?_⟩
    · change k ≤ 8 + 14 * (claimBudget w.tables + 0) at hk
      omega
    · rintro n rfl
      rw [hended] at hbegun
      change n ≤ 0 + _ at hbegun
      omega

/-- The small queue without delays, and with pauses only after many failures. -/
def hasty : Queue Unit :=
  { Queue.plain with
    backoff := ⟨.zero false, ⟨0, 0⟩⟩
    breaker := ⟨100, .ofMillis 1000⟩ }

/-- Jobs with two attempts, with one that is over the limit, with two because of a negative count of
retries, and with none any more. -/
def worn : World Unit :=
  let job := (ScheduleRequest.plain none).toJob
  .initial ⟨9⟩
    { Tables.empty with
      jobs := [job ⟨1⟩ 2 ⟨0⟩, { job ⟨2⟩ 3 ⟨0⟩ with status := .retrying, retryCount := 5 },
        { job ⟨3⟩ 1 ⟨0⟩ with retryCount := -1 }, { job ⟨4⟩ 3 ⟨0⟩ with status := .completed }] } ()

/-- An executor that always fails. -/
def failing : Executor Unit := fun _ w => (.error "not today", w)

/-- A turn before which the clock goes on. -/
def hastyTurn : Turn Unit where
  queue := hasty
  executor := failing
  meanwhile w := { w with now := w.now.moved 1 }
  leavesJobs _ _ := rfl
  meanwhile_jobs _ := rfl

/-- All jobs fail again and again, without delays: five attempts at most. -/
theorem tick_ends_hasty :
    ((∃ n ≤ 5, ∃ w', hasty.tick 0 failing 0 worn = .ok (some n) w') ∨
        ∃ e w', hasty.tick 0 failing 0 worn = .error e w') ∧
      ∃ k ≤ 78, ∃ outcome,
        (LoopPoint.run 0 (fun _ => hastyTurn) (.enter, worn) k).1 = .ended outcome := by
  have hids : (worn.tables.jobs.map (·.id)).Nodup := by decide
  obtain ⟨htick, hturns⟩ := @tick_ends Unit 0 worn hids 5 (by decide)
  obtain ⟨k, hk, outcome, hended, -⟩ := hturns fun _ => hastyTurn
  exact ⟨htick hasty failing 0 fun _ _ => rfl, k, hk, outcome, hended⟩

end Queue

end SyncQueue
