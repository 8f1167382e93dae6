import Mathlib.Logic.Relation
import SyncQueue.Proofs.Unfinalized
import SyncQueue.Queue.Lifecycle

/-!
# The loop of a consumer, step by step

`LoopPoint.Steps` lists what a step of the loop can do to the flags of the consumer. Its steps are
those of `Queue.tick`: between the entry of a tick and its end they do the same, whatever the
executor does to the world.

* `LoopPoint.step_meets`: a step of the loop is one of those listed, and it always succeeds.
* `LoopPoint.runs_tick`: a tick whose steps follow one another without a break is `Queue.tick`.
-/

namespace SyncQueue

open Relation (ReflTransGen)

variable {σ : Type}

/-! ## One step -/

namespace LoopPoint

/-- What the next step of the loop can do, and the flags of the consumer before and after it. -/
inductive Steps (f f' : ConsumerFlags) : LoopPoint → LoopPoint → Prop where
  | polls (hf : f' = f) (h : f.active = true) : Steps f f' .poll .enter
  | returns (hf : f' = f) (h : f.active = false) : Steps f f' .poll .returned
  | enters (hf : f' = f) (h : f.active = true) : Steps f f' .enter .lock
  | declines (hf : f' = f) (h : f.active = false) : Steps f f' .enter (.ended (.ok 0))
  | locks (hf : f' = { f with ticking := true }) (h : f.ticking = false) :
      Steps f f' .lock (.test 0)
  | skips (hf : f' = f) (h : f.ticking = true) : Steps f f' .lock (.ended (.ok 0))
  | passes {n : Nat} (hf : f' = f) (h : f.active = true) : Steps f f' (.test n) (.mark n)
  | drains {n : Nat} (hf : f' = f) (h : f.active = false) :
      Steps f f' (.test n) (.unlock (.ok n))
  | marks {n : Nat} (hf : f' = { f with inFlight := true }) : Steps f f' (.mark n) (.claim n)
  | begins {n : Nat} (hf : f' = f) : Steps f f' (.claim n) (.claiming n)
  | claims {n : Nat} {job : Job} (hf : f' = f) : Steps f f' (.claiming n) (.start n job)
  /-- There was no job to claim, or the claim failed. -/
  | unclaimed {n : Nat} {outcome : Except QueueError Nat} (hf : f' = f) :
      Steps f f' (.claiming n) (.leave outcome)
  | starts {n : Nat} {job : Job} {around : Option Job} (hf : f' = { f with inFlight := true }) :
      Steps f f' (.start n job) (.attempt n job around .claimed)
  | attempts {n : Nat} {job : Job} {around : Option Job} {stage stage' : AttemptStage}
      (hf : f' = f) : Steps f f' (.attempt n job around stage) (.attempt n job around stage')
  | attempted {n : Nat} {job : Job} {around : Option Job} {stage : AttemptStage}
      {answer : Except QueueError JobStatus} (hf : f' = f) :
      Steps f f' (.attempt n job around stage) (.unmark n answer)
  | unmarks {n : Nat} {status : JobStatus} (hf : f' = { f with inFlight := false }) :
      Steps f f' (.unmark n (.ok status)) (.again (n + 1))
  | breaksOff {n : Nat} {e : QueueError} (hf : f' = { f with inFlight := false }) :
      Steps f f' (.unmark n (.error e)) (.leave (.error e))
  | goesOn {n : Nat} (hf : f' = { f with inFlight := false }) : Steps f f' (.again n) (.test n)
  | leaves {outcome : Except QueueError Nat} (hf : f' = { f with inFlight := false }) :
      Steps f f' (.leave outcome) (.unlock outcome)
  | unlocks {outcome : Except QueueError Nat} (hf : f' = { f with ticking := false }) :
      Steps f f' (.unlock outcome) (.ended outcome)
  | reports {outcome : Except QueueError Nat} (hf : f' = f) : Steps f f' (.ended outcome) .sleep
  | sleeps (hf : f' = f) : Steps f f' .sleep .poll
  | rests (hf : f' = f) : Steps f f' .returned .returned

@[simp] theorem flags_setTicking (consumer : Nat) (ticking : Bool) (w : World σ) :
    (setTicking consumer ticking w).flags consumer = { w.flags consumer with ticking } := by
  simp [setTicking, World.withFlags]

end LoopPoint

/-- A step of an attempt leaves the flags of all consumers as they are. -/
theorem AttemptStage.Steps.flags {q : Queue σ} {job : Job} {answer : Answer} {w w' : World σ}
    {stage stage' : AttemptStage} (h : Steps q job answer w stage stage' w') :
    w'.flags = w.flags := by
  cases h with
  | begins | rests => rfl
  | finalizes hw =>
    cases hw with
    | success _ _ _ hw | failure _ _ hw => exact hw.flags
  | executes hw | repeats _ hw | fails _ hw | returns _ hw | unlogs _ _ hw | returnsRow hw
  | strands _ hw => exact hw.flags

namespace LoopPoint

/-- **A step of the loop** is one of those listed. -/
theorem step_meets (q : Queue σ) (consumer : Nat) (answer : Answer) (point : LoopPoint)
    (w : World σ) :
    Meets (point.step q consumer fun _ w => (answer, w)) w
      (fun point' w' => Steps (w.flags consumer) (w'.flags consumer) point point')
      fun _ _ => False := by
  cases point with
  | poll =>
    refine Meets.get_bind ?_
    split
    · exact Steps.polls rfl ‹_›
    · exact Steps.returns rfl (Bool.eq_false_iff.2 ‹_›)
  | enter =>
    refine Meets.get_bind ?_
    split
    · exact Steps.enters rfl ‹_›
    · exact Steps.declines rfl (Bool.eq_false_iff.2 ‹_›)
  | lock =>
    refine Meets.get_bind ?_
    split
    · exact Steps.skips rfl ‹_›
    · exact Steps.locks (flags_setTicking consumer true w) (Bool.eq_false_iff.2 ‹_›)
  | test n =>
    refine Meets.get_bind ?_
    split
    · exact Steps.passes rfl ‹_›
    · exact Steps.drains rfl (Bool.eq_false_iff.2 ‹_›)
  | mark n => exact Steps.marks (Queue.flags_setInFlight consumer true w)
  | claim n => exact Steps.begins rfl
  | claiming n =>
    refine Meets.recover (F := fun _ w' => w.Stays w') ?_ fun e w₁ h₁ => ?_
    · refine (q.claim_meets w).bind (fun claimed w₁ h₁ => ?_) fun _ _ h => h.1
      obtain ⟨rfl, -, h₁⟩ | ⟨job, rfl, -, h₁⟩ := h₁
      · exact Steps.unclaimed (congrFun h₁.flags consumer)
      · exact Steps.claims (congrFun h₁.flags consumer)
    · exact Steps.unclaimed (congrFun h₁.flags consumer)
  | start n job => exact Steps.starts (Queue.flags_setInFlight consumer true w)
  | attempt n job around stage =>
    refine (AttemptStage.step_meets q job answer stage w).bind_total fun stage' w₁ h₁ => ?_
    have hflags := congrFun h₁.flags consumer
    cases stage'.answer? with
    | none => exact Steps.attempts hflags
    | some answer => exact Steps.attempted hflags
  | unmark n answer =>
    cases answer with
    | ok status => exact Steps.unmarks (Queue.flags_setInFlight consumer false w)
    | error e => exact Steps.breaksOff (Queue.flags_setInFlight consumer false w)
  | again n => exact Steps.goesOn (Queue.flags_setInFlight consumer false w)
  | leave outcome => exact Steps.leaves (Queue.flags_setInFlight consumer false w)
  | unlock outcome => exact Steps.unlocks (flags_setTicking consumer false _)
  | ended outcome =>
    cases outcome with
    | error e => exact Steps.reports rfl
    | ok n =>
      simp only [step]
      split <;> exact Steps.reports rfl
  | sleep => exact Steps.sleeps rfl
  | returned => exact Steps.rests rfl

end LoopPoint

/-! ## Steps without a break -/

namespace AttemptStage

variable {q : Queue σ} {executor : Executor σ} {job : Job} {stage stage' : AttemptStage}
  {w w' : World σ}

/-- A step of an attempt always succeeds, whatever the executor does to the world. -/
theorem step_ok (q : Queue σ) (executor : Executor σ) (job : Job) (stage : AttemptStage)
    (w : World σ) : ∃ stage' w', stage.step q executor job w = .ok stage' w' := by
  have hother (h : stage.step q executor job = stage.step q (fun _ w => (.error "", w)) job) :
      ∃ stage' w', stage.step q executor job w = .ok stage' w' := by
    obtain ⟨stage', w', hrun, -⟩ := (step_meets q job (.error "") stage w).exists_ok
    exact ⟨stage', w', h ▸ hrun⟩
  cases stage with
  | executing startedAt =>
    have hanswered : Meets (answered executor job startedAt) w (fun _ _ => True) fun _ _ => False :=
      (Queue.execute_meets executor job w).bind_total fun _ _ _ => trivial
    obtain ⟨stage', w', hrun, -⟩ := hanswered.exists_ok
    exact ⟨stage', w', hrun⟩
  | _ => exact hother rfl

theorem finish_ok (q : Queue σ) (executor : Executor σ) (job : Job) (fuel : Nat)
    (stage : AttemptStage) (w : World σ) :
    ∃ stage' w', finish q executor job fuel stage w = .ok stage' w' := by
  induction fuel generalizing stage w with
  | zero => exact ⟨stage, w, rfl⟩
  | succ fuel ih =>
    rw [finish]
    split
    · obtain ⟨stage₁, w₁, hrun⟩ := step_ok q executor job stage w
      rw [bind_apply, hrun]
      exact ih stage₁ w₁
    · exact ⟨stage, w, rfl⟩

theorem finish_of_not_isOpen (h : stage.isOpen = false) (fuel : Nat) :
    finish q executor job fuel stage w = .ok stage w := by
  cases fuel with
  | zero => rfl
  | succ fuel =>
    rw [finish, h]
    rfl

theorem answer?_of_isOpen (h : stage.isOpen) : stage.answer? = none := by
  cases stage <;> first | rfl | cases h

/-- An attempt that is made without a break ends with the answer of the attempt of the consumer. -/
theorem finish_answers (q : Queue σ) (executor : Executor σ) (job : Job) (w : World σ) :
    ∃ stage w', finish q executor job maxSteps claimed w = .ok stage w' ∧
      Meets (q.attempt executor job) w
        (fun status v => stage.answer? = some (.ok status) ∧ w' = v)
        fun e v => stage.answer? = some (.error e) ∧ w' = v := by
  obtain ⟨stage, w', hrun⟩ := finish_ok q executor job maxSteps claimed w
  have hsame := finish_claimed q executor job w
  rw [bind_apply, hrun, map_apply] at hsame
  refine ⟨stage, w', hrun, ?_⟩
  unfold Meets
  cases hattempt : q.attempt executor job w with
  | ok status v =>
    rw [hattempt] at hsame
    cases stage with
    | ended answer => cases answer <;> cases hsame; exact ⟨rfl, rfl⟩
    | _ => cases hsame
  | error e v =>
    rw [hattempt] at hsame
    cases stage with
    | ended answer => cases answer <;> cases hsame; exact ⟨rfl, rfl⟩
    | stranded cause => cases hsame; exact ⟨rfl, rfl⟩
    | _ => cases hsame

end AttemptStage

namespace LoopPoint

variable {q : Queue σ} {consumer : Nat} {executor : Executor σ} {job : Job}

/-- The steps of the loop lead from a point and a world to another one. -/
def Runs (q : Queue σ) (consumer : Nat) (executor : Executor σ) :
    LoopPoint × World σ → LoopPoint × World σ → Prop :=
  ReflTransGen fun x y => x.1.step q consumer executor x.2 = .ok y.1 y.2

theorem Runs.next {x y z : LoopPoint × World σ} (h : x.1.step q consumer executor x.2 = .ok y.1 y.2)
    (hrest : Runs q consumer executor y z) : Runs q consumer executor x z :=
  ReflTransGen.head h hrest

theorem Runs.trans {x y z : LoopPoint × World σ} (h : Runs q consumer executor x y)
    (hrest : Runs q consumer executor y z) : Runs q consumer executor x z :=
  ReflTransGen.trans h hrest

theorem Runs.last {x y z : LoopPoint × World σ} (h : Runs q consumer executor x y)
    (hlast : y.1.step q consumer executor y.2 = .ok z.1 z.2) : Runs q consumer executor x z :=
  ReflTransGen.tail h hlast

section StepAt

variable {w w₁ : World σ} {flag : Bool}

theorem step_enter (h : (w.flags consumer).active = flag) :
    enter.step q consumer executor w = .ok (if flag then .lock else .ended (.ok 0)) w := by
  subst h
  simp only [step, bind_apply, get_apply]
  split <;> rfl

theorem step_test (n : Nat) (h : (w.flags consumer).active = flag) :
    (test n).step q consumer executor w = .ok (if flag then .mark n else .unlock (.ok n)) w := by
  subst h
  simp only [step, bind_apply, get_apply]
  split <;> rfl

theorem step_claiming (n : Nat) {claimed : Option Job} (h : q.claim w = .ok claimed w₁) :
    (claiming n).step q consumer executor w =
      .ok (claimed.elim (.leave (.ok n)) (.start n)) w₁ := by
  simp only [step, recover_apply, bind_apply, h]
  cases claimed <;> rfl

theorem step_claiming_error (n : Nat) {e : QueueError} (h : q.claim w = .error e w₁) :
    (claiming n).step q consumer executor w = .ok (.leave (.error e)) w₁ := by
  simp only [step, recover_apply, bind_apply, h, pure_apply]

end StepAt

/-- The steps of an attempt are steps of the loop. -/
theorem runs_finish (n : Nat) (around : Option Job) {answer : Except QueueError JobStatus}
    {fuel : Nat} {stage stage' : AttemptStage} {w w' : World σ} (hopen : stage.isOpen)
    (hfinish : stage.finish q executor job fuel w = .ok stage' w')
    (hanswer : stage'.answer? = some answer) :
    Runs q consumer executor (.attempt n job around stage, w)
      (.unmark n answer, { w' with underway := around }) := by
  induction fuel generalizing stage w with
  | zero =>
    cases hfinish
    rw [AttemptStage.answer?_of_isOpen hopen] at hanswer
    cases hanswer
  | succ fuel ih =>
    obtain ⟨stage₁, w₁, hstep⟩ := AttemptStage.step_ok q executor job stage w
    rw [AttemptStage.finish_succ _ _ _ _ _ hopen, bind_apply, hstep] at hfinish
    cases h₁ : stage₁.isOpen with
    | true =>
      refine Runs.next (y := (.attempt n job around stage₁, w₁)) ?_ (ih h₁ hfinish)
      simp only [step, bind_apply, hstep, AttemptStage.answer?_of_isOpen h₁, pure_apply]
    | false =>
      have hfinal : AttemptStage.finish q executor job fuel stage₁ w₁ = .ok stage' w' := hfinish
      rw [AttemptStage.finish_of_not_isOpen h₁] at hfinal
      cases hfinal
      refine ReflTransGen.single ?_
      simp only [step, bind_apply, hstep, hanswer, modify_apply, pure_apply]

/-- **An attempt** by the steps of the loop is that of the consumer. -/
theorem runs_processJob (n : Nat) (w : World σ) :
    Meets (q.processJob consumer executor job) w
      (fun _ w' => Runs q consumer executor (.start n job, w) (.again (n + 1), w'))
      fun e w' => Runs q consumer executor (.start n job, w) (.leave (.error e), w') := by
  obtain ⟨stage, v, hfinish, hattempt⟩ :=
    AttemptStage.finish_answers q executor job (Queue.processing consumer job w)
  have hstart : Runs q consumer executor (.start n job, w)
      (.attempt n job w.underway .claimed, Queue.processing consumer job w) :=
    ReflTransGen.single rfl
  unfold Meets at hattempt ⊢
  rw [Queue.processJob_apply]
  cases hrun : q.attempt executor job (Queue.processing consumer job w) with
  | ok status w' =>
    rw [hrun] at hattempt
    obtain ⟨hanswer, rfl⟩ := hattempt
    exact (hstart.trans (runs_finish n w.underway rfl hfinish hanswer)).last rfl
  | error e w' =>
    rw [hrun] at hattempt
    obtain ⟨hanswer, rfl⟩ := hattempt
    exact (hstart.trans (runs_finish n w.underway rfl hfinish hanswer)).last rfl

/-- A round of a tick, from the beginning of the claim. -/
theorem runs_round (q : Queue σ) (consumer : Nat) (executor : Executor σ) (n : Nat) (w : World σ) :
    Meets
      (finallyModify
        (do
          match ← q.claim with
          | none => return false
          | some job =>
            let _ ← q.processJob consumer executor job
            return true)
        (Queue.setInFlight consumer false)) w
      (fun attempted w' => Runs q consumer executor (.claiming n, w)
        (if attempted then .test (n + 1) else .unlock (.ok n), w'))
      fun e w' => Runs q consumer executor (.claiming n, w) (.unlock (.error e), w') := by
  refine Meets.finallyModify ?_
  refine (Meets.result q.claim w).bind (fun claimed w₁ h₁ => ?_) fun e w₁ h₁ => ?_
  · have hclaimed : Runs q consumer executor (.claiming n, w)
        (claimed.elim (.leave (.ok n)) (.start n), w₁) := ReflTransGen.single (step_claiming n h₁)
    cases claimed with
    | none => exact hclaimed.last rfl
    | some job =>
      exact (runs_processJob n w₁).bind (fun _ w₂ h₂ => (hclaimed.trans h₂).last rfl)
        fun e w₂ h₂ => (hclaimed.trans h₂).last rfl
  · have hleave : Runs q consumer executor (.claiming n, w) (.leave (.error e), w₁) :=
      ReflTransGen.single (step_claiming_error n h₁)
    exact hleave.last rfl

/-- The rounds of a tick, one after another: until the tick leaves them, or as many as it was given
fuel for. -/
theorem runs_drain (fuel n : Nat) (w : World σ) :
    Meets (q.drain consumer executor fuel n) w
      (fun r w' => Runs q consumer executor (.test n, w)
        (r.elim (.test (n + fuel)) fun m => .unlock (.ok m), w'))
      fun e w' => Runs q consumer executor (.test n, w) (.unlock (.error e), w') := by
  induction fuel generalizing n w with
  | zero => exact ReflTransGen.refl
  | succ fuel ih =>
    refine Meets.get_bind ?_
    cases hactive : (w.flags consumer).active with
    | false =>
      rw [if_pos (by rfl)]
      exact ReflTransGen.single (step_test n hactive)
    | true =>
      rw [if_neg (by simp)]
      have hmark : Runs q consumer executor (.test n, w) (.mark n, w) :=
        ReflTransGen.single (step_test n hactive)
      have hclaim : Runs q consumer executor (.test n, w)
          (.claiming n, Queue.setInFlight consumer true w) :=
        (hmark.last (z := (.claim n, _)) rfl).last rfl
      refine Meets.modify_bind ((runs_round q consumer executor n _).bind
        (fun attempted w₁ h₁ => ?_) fun e w₁ h₁ => hclaim.trans h₁)
      replace h₁ := hclaim.trans h₁
      cases attempted with
      | true =>
        rw [show n + (fuel + 1) = n + 1 + fuel by omega]
        exact (ih (n + 1) w₁).mono (fun r w₂ h₂ => h₁.trans h₂) fun e w₂ h₂ => h₁.trans h₂
      | false => exact h₁

/-- **A tick** whose steps follow one another without a break is the tick of the consumer. -/
theorem runs_tick (q : Queue σ) (consumer : Nat) (executor : Executor σ) (patience : Nat)
    (w : World σ) :
    Meets (q.tick consumer executor patience) w
      (fun r w' => ∀ n, r = some n → Runs q consumer executor (.enter, w) (.ended (.ok n), w'))
      fun e w' => Runs q consumer executor (.enter, w) (.ended (.error e), w') := by
  refine Meets.get_bind ?_
  dsimp only
  cases hactive : (w.flags consumer).active with
  | false =>
    rw [if_pos (by rfl)]
    rintro m hm
    cases hm
    exact ReflTransGen.single (step_enter hactive)
  | true =>
    have henter : Runs q consumer executor (.enter, w) (.lock, w) :=
      ReflTransGen.single (step_enter hactive)
    rw [if_neg (by simp)]
    cases hticking : (w.flags consumer).ticking with
    | true =>
      rw [if_pos rfl]
      rintro m hm
      cases hm
      refine henter.last ?_
      simp only [step, bind_apply, get_apply, hticking, if_true, log_apply, pure_apply]
    | false =>
      have hlock : Runs q consumer executor (.enter, w) (.test 0, setTicking consumer true w) := by
        refine henter.last ?_
        simp only [step, bind_apply, get_apply, hticking, Bool.false_eq_true, if_false,
          modify_apply, pure_apply]
      rw [if_neg Bool.false_ne_true]
      refine Meets.modify_bind (Meets.finallyModify ?_)
      refine (runs_drain _ 0 _).mono (fun r w₁ h₁ m hm => ?_)
        fun e w₁ h₁ => (hlock.trans h₁).last rfl
      subst hm
      exact (hlock.trans h₁).last rfl

end LoopPoint

end SyncQueue
