import Mathlib.Logic.Relation
import SyncQueue.Proofs.Meets
import SyncQueue.Queue.Requests

/-!
# What the statements of a request do

A request looks up its idempotency key, looks up its window, inserts its job and, if the insert was
refused as a duplicate, reads the job that was there first. `Phase.Steps` lists what each of these
statements can do, with all that it tells about the tables at that moment.

* `Phase.step_steps`: a step of a request is one of these.
* `Phase.Steps.leaves`: apart from the rows of jobs it leaves everything as it is.
* `Phase.schedule_steps`: `Queue.schedule` is such steps in a row, up to an answer.

What holds of a request after each of its steps so holds of `Queue.schedule` as well, whether other
statements come in between or not.
-/

namespace SyncQueue

variable {σ α : Type}

namespace Queue

/-! ## Statements -/

theorem findByKey_meets (q : Queue σ) (key : String) (w : World σ) :
    Meets (q.findByKey key) w (fun found w' => found = w.tables.jobByKey? key ∧ w.Stays w')
      fun _ w' => w.Stays w' ∧ q.IsFallible :=
  (q.read_meets [.jobs] (·.jobByKey? key) w).within

theorem lookupKey_meets (q : Queue σ) (r : ScheduleRequest) (w : World σ) :
    Meets (q.lookupKey r) w
      (fun found w' => found = r.idempotencyKey.bind w.tables.jobByKey? ∧ w.Stays w')
      fun _ w' => w.Stays w' ∧ q.IsFallible := by
  unfold lookupKey
  cases r.idempotencyKey with
  | none => exact ⟨rfl, .refl w⟩
  | some key =>
    refine (q.findByKey_meets key w).bind (fun found w₁ h₁ => ?_) fun _ _ h => h
    obtain ⟨rfl, h₁⟩ := h₁
    refine Meets.onlyIf (M := fun _ w' => w.Stays w') (F := fun _ _ => False)
      (fun _ => Meets.log (h₁.trans_stays (w₁.stays_logged _))) (fun _ => h₁)
      (fun w₂ h₂ => ?_) fun _ _ h => h.elim
    exact ⟨rfl, h₂⟩

theorem lookupWindow_meets (q : Queue σ) (r : ScheduleRequest) (w : World σ) :
    Meets (q.lookupWindow r) w
      (fun found w' =>
        found = w.tables.activeInWindow? r.key r.windowStart r.windowEnd ∧ w.Stays w')
      fun _ w' => w.Stays w' ∧ q.IsFallible := by
  unfold lookupWindow
  refine (q.read_meets [.jobs] (·.activeInWindow? r.key r.windowStart r.windowEnd) w).within.bind
    (fun found w₁ h₁ => ?_) fun _ _ h => h
  obtain ⟨rfl, h₁⟩ := h₁
  refine Meets.onlyIf (M := fun _ w' => w.Stays w') (F := fun _ _ => False)
    (fun _ => Meets.log (h₁.trans_stays (w₁.stays_logged _))) (fun _ => h₁)
    (fun w₂ h₂ => ?_) fun _ _ h => h.elim
  exact ⟨rfl, h₂⟩

/-- The store reports a duplicate as one. -/
theorem isUniqueViolation_of_conflict? {t : Tables} {job : Job} {e : StoreError}
    (h : t.conflict? job = some e) : e.isUniqueViolation := by
  unfold Tables.conflict? at h
  split at h
  · cases h
    rfl
  · split at h
    · cases h
      rfl
    · cases h

/-- The job of a request that is inserted next. -/
def newJob (q : Queue σ) (r : ScheduleRequest) (maxRetries : Int) (w : World σ) : Job :=
  r.toJob (q.jobId w.named) maxRetries w.now

/-- The store refuses nothing, and the next identifier is not in use. -/
def CanCreate (q : Queue σ) (w : World σ) : Prop :=
  ¬q.IsFallible ∧ w.tables.job? (q.jobId w.named) = none

theorem insertNew_meets (q : Queue σ) (r : ScheduleRequest) (n : Int) (w : World σ) :
    Meets (q.insertNew r n) w
      (fun i w' =>
        (i = .created (q.newJob r n w) ∧ w.tables.conflict? (q.newJob r n w) = none ∧
          { w with named := w.named + 1 }.Becomes (w.tables.insertJob (q.newJob r n w)) w.events w')
        ∨ ∃ cause, i = .duplicate cause ∧ w.Stays w' ∧
          (q.IsFallible ∨ w.tables.conflict? (q.newJob r n w) = some cause))
      fun _ w' => w.Stays w' ∧ q.IsFallible := by
  have hinsert := q.insertJob_meets (q.newJob r n w) w
  unfold Meets insertNew
  dsimp only
  rw [show r.toJob (q.jobId w.named) n w.now = q.newJob r n w from rfl]
  cases hrun : q.insertJob (q.newJob r n w) w with
  | ok u w₁ =>
    obtain ⟨hnone, h₁⟩ := hinsert.ok_of_eq hrun
    exact .inl ⟨rfl, hnone, h₁.tables, h₁.events, h₁.now, h₁.flags, h₁.underway,
      congrArg (· + 1) h₁.named, h₁.surroundings⟩
  | error e w₁ =>
    obtain ⟨h₁, hcause⟩ := hinsert.error_of_eq hrun
    cases hunique : e.isUniqueViolation with
    | true =>
      simp only [hunique, if_true]
      exact .inr ⟨e, rfl, h₁, hcause⟩
    | false =>
      simp only [hunique, Bool.false_eq_true, if_false]
      refine ⟨h₁.trans_stays ⟨rfl, rfl, rfl, rfl, rfl, rfl, rfl⟩, hcause.resolve_right fun h => ?_⟩
      rw [isUniqueViolation_of_conflict? h] at hunique
      cases hunique

theorem readWinner_meets (q : Queue σ) (r : ScheduleRequest) (cause : StoreError) (w : World σ) :
    Meets (q.readWinner r cause) w
      (fun s w' => ∃ job, s = ⟨job, false⟩ ∧
        w.tables.jobByKey? (r.idempotencyKey.getD "") = some job ∧ w.Stays w')
      fun _ w' => w.Stays w' ∧
        (q.IsFallible ∨ w.tables.jobByKey? (r.idempotencyKey.getD "") = none) := by
  refine (q.findByKey_meets _ w).bind (fun found w₁ h₁ => ?_) fun _ _ h => ⟨h.1, .inl h.2⟩
  obtain ⟨rfl, h₁⟩ := h₁
  cases hfound : w.tables.jobByKey? (r.idempotencyKey.getD "") with
  | some job => exact ⟨job, rfl, rfl, h₁⟩
  | none => exact ⟨h₁, .inr rfl⟩

end Queue

/-! ## Steps of a request -/

namespace Phase

/-- What the next statement of a request can do. -/
inductive Steps (q : Queue σ) (r : ScheduleRequest) : Phase × World σ → Phase × World σ → Prop where
  /-- A job carries the key. -/
  | known {n : Int} {w w' : World σ} {job : Job}
      (h : r.idempotencyKey.bind w.tables.jobByKey? = some job) (hw : w.Stays w') :
      Steps q r (.key n, w) (.done (.ok ⟨job, false⟩), w')
  | unknown {n : Int} {w w' : World σ}
      (h : r.idempotencyKey.bind w.tables.jobByKey? = none) (hw : w.Stays w') :
      Steps q r (.key n, w) (.window n, w')
  /-- A job for the window is active. -/
  | active {n : Int} {w w' : World σ} {job : Job}
      (h : w.tables.activeInWindow? r.key r.windowStart r.windowEnd = some job)
      (hw : w.Stays w') :
      Steps q r (.window n, w) (.done (.ok ⟨job, false⟩), w')
  | vacant {n : Int} {w w' : World σ}
      (h : w.tables.activeInWindow? r.key r.windowStart r.windowEnd = none) (hw : w.Stays w') :
      Steps q r (.window n, w) (.insert n, w')
  | created {n : Int} {w w' : World σ} (h : w.tables.conflict? (q.newJob r n w) = none)
      (hw : { w with named := w.named + 1 }.Becomes (w.tables.insertJob (q.newJob r n w))
        w.events w') :
      Steps q r (.insert n, w) (.done (.ok ⟨q.newJob r n w, true⟩), w')
  | duplicate {n : Int} {w w' : World σ} {cause : StoreError}
      (h : q.IsFallible ∨ w.tables.conflict? (q.newJob r n w) = some cause) (hw : w.Stays w') :
      Steps q r (.insert n, w) (.winner cause, w')
  /-- A job carries the key after all. -/
  | won {w w' : World σ} {cause : StoreError} {job : Job}
      (h : w.tables.jobByKey? (r.idempotencyKey.getD "") = some job) (hw : w.Stays w') :
      Steps q r (.winner cause, w) (.done (.ok ⟨job, false⟩), w')
  /-- The statement was refused, or no job was there first. -/
  | refused {p : Phase} {w w' : World σ} {e : QueueError} (hp : p.answer? = none)
      (h : q.IsFallible ∨
        (∃ cause, p = .winner cause) ∧ w.tables.jobByKey? (r.idempotencyKey.getD "") = none)
      (hw : w.Stays w') :
      Steps q r (p, w) (.done (.error e), w')
  | answered {w : World σ} {answer : Except QueueError ScheduledJob} :
      Steps q r (.done answer, w) (.done answer, w)

/-- An invalid request is answered at once; a valid one starts with its key, if it has one, or else
with its window. -/
theorem start_elim {d : Int} {r : ScheduleRequest} {C : Phase → Prop}
    (herror : ∀ e, r.validate d = .error e → C (.done (.error e)))
    (hkey : ∀ n, r.validate d = .ok n → C (.key n))
    (hwindow : ∀ n, r.validate d = .ok n → r.idempotencyKey = none → C (.window n)) :
    C (start d r) := by
  unfold start
  cases hvalid : r.validate d with
  | error e => exact herror e hvalid
  | ok n =>
    cases hnone : r.idempotencyKey with
    | none => exact hwindow n hvalid hnone
    | some key => exact hkey n hvalid

/-- A statement either has a value, and the request goes on with it, or it ends the request. -/
theorem advance_elim {x : QueueM σ α} {next : α → Phase} {w : World σ} {P : α → World σ → Prop}
    {E : QueueError → World σ → Prop} {C : Phase × World σ → Prop} (h : Meets x w P E)
    (hok : ∀ a w', P a w' → C (next a, w')) (herror : ∀ e w', E e w' → C (.done (.error e), w')) :
    C (advance x next w) := by
  unfold Meets at h
  unfold advance
  cases hx : x w with
  | ok a w' =>
    rw [hx] at h
    exact hok a w' h
  | error e w' =>
    rw [hx] at h
    exact herror e w' h

/-- **A step of a request** is one of those listed. -/
theorem step_steps (q : Queue σ) (r : ScheduleRequest) (p : Phase) (w : World σ) :
    Steps q r (p, w) (p.step q r w) := by
  cases p with
  | key n =>
    refine advance_elim (q.lookupKey_meets r w) (fun found w' h => ?_)
      fun _ _ h => .refused rfl (.inl h.2) h.1
    obtain ⟨rfl, hw⟩ := h
    cases hfound : r.idempotencyKey.bind w.tables.jobByKey? with
    | some job => exact .known hfound hw
    | none => exact .unknown hfound hw
  | window n =>
    refine advance_elim (q.lookupWindow_meets r w) (fun found w' h => ?_)
      fun _ _ h => .refused rfl (.inl h.2) h.1
    obtain ⟨rfl, hw⟩ := h
    cases hfound : w.tables.activeInWindow? r.key r.windowStart r.windowEnd with
    | some job => exact .active hfound hw
    | none => exact .vacant hfound hw
  | insert n =>
    refine advance_elim (q.insertNew_meets r n w) (fun i w' h => ?_)
      fun _ _ h => .refused rfl (.inl h.2) h.1
    obtain ⟨rfl, hnone, hw⟩ | ⟨cause, rfl, hw, hcause⟩ := h
    · exact .created hnone hw
    · exact .duplicate hcause hw
  | winner cause =>
    refine advance_elim (q.readWinner_meets r cause w) (fun s w' h => ?_)
      fun _ _ h => .refused rfl (h.2.imp_right fun hnone => ⟨⟨cause, rfl⟩, hnone⟩) h.1
    obtain ⟨job, rfl, hfound, hw⟩ := h
    exact .won hfound hw
  | done answer => exact .answered

/-! ## What a request leaves alone -/

/-- Only the rows of jobs are other than before; no event was reported, and the clock stands. -/
structure Leaves (w w' : World σ) : Prop where
  logs : w'.tables.logs = w.tables.logs
  stats : w'.tables.stats = w.tables.stats
  alerts : w'.tables.alerts = w.tables.alerts
  events : w'.events = w.events
  now : w'.now = w.now

/-- **A statement of a request** changes at most the rows of jobs. -/
theorem Steps.leaves {q : Queue σ} {r : ScheduleRequest} {p p' : Phase} {w w' : World σ}
    (h : Steps q r (p, w) (p', w')) : Leaves w w' := by
  have hstays (hw : w.Stays w') : Leaves w w' := by
    refine ⟨?_, ?_, ?_, hw.events, hw.now⟩ <;> rw [hw.tables]
  cases h with
  | known _ hw | unknown _ hw | active _ hw | vacant _ hw | duplicate _ hw | won _ hw
  | refused _ _ hw => exact hstays hw
  | created _ hw =>
    refine ⟨?_, ?_, ?_, hw.events, hw.now⟩ <;> rw [hw.tables] <;> rfl
  | answered => exact hstays (.refl w)

/-! ## Steps in a row -/

open Relation (ReflTransGen)

theorem finish_steps (q : Queue σ) (r : ScheduleRequest) (fuel : Nat) (p : Phase) (w : World σ) :
    ReflTransGen (Steps q r) (p, w) (finish q r fuel p w) := by
  induction fuel generalizing p w with
  | zero => exact .refl
  | succ fuel ih => exact .head (step_steps q r p w) (ih _ _)

/-- The answer of a computation that serves a request, and the world after it. -/
def outcome (result : EStateM.Result QueueError (World σ) ScheduledJob) :
    Except QueueError ScheduledJob × World σ :=
  match result with
  | .ok s w => (.ok s, w)
  | .error e w => (.error e, w)

/-- **Serving a request without a break** is its steps in a row. -/
theorem schedule_steps (q : Queue σ) (defaultMaxRetries : Int) (r : ScheduleRequest)
    (w : World σ) :
    ReflTransGen (Steps q r) (start defaultMaxRetries r, w)
      (.done (outcome (q.schedule defaultMaxRetries r w)).1,
        (outcome (q.schedule defaultMaxRetries r w)).2) := by
  have h := finish_steps q r maxSteps (start defaultMaxRetries r) w
  rw [finish_start] at h
  cases hrun : q.schedule defaultMaxRetries r w with
  | ok s w' =>
    rw [hrun] at h
    exact h
  | error e w' =>
    rw [hrun] at h
    exact h

/-- What every step keeps, a row of steps keeps. -/
theorem steps_induction {q : Queue σ} {r : ScheduleRequest} {P : Phase → World σ → Prop}
    (hstep : ∀ p w p' w', Steps q r (p, w) (p', w') → P p w → P p' w') {s s' : Phase × World σ}
    (h : ReflTransGen (Steps q r) s s') (hs : P s.1 s.2) : P s'.1 s'.2 := by
  induction h with
  | refl => exact hs
  | tail _ hlast ih => exact hstep _ _ _ _ hlast ih

/-- **A request that is served without a break** changes at most the rows of jobs. -/
theorem leaves_of_steps {q : Queue σ} {r : ScheduleRequest} {p p' : Phase} {w w' : World σ}
    (h : ReflTransGen (Steps q r) (p, w) (p', w')) : Leaves w w' :=
  steps_induction (P := fun _ w' => Leaves w w')
    (fun _ _ _ _ hstep hw =>
      have hnext := hstep.leaves
      ⟨hnext.logs.trans hw.logs, hnext.stats.trans hw.stats, hnext.alerts.trans hw.alerts,
        hnext.events.trans hw.events, hnext.now.trans hw.now⟩)
    h ⟨rfl, rfl, rfl, rfl, rfl⟩

end Phase

end SyncQueue
