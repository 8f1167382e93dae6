import SyncQueue.Proofs.Loop

/-!
# Shutting down

The flags of a consumer tell where its loop stands, and the shutdown of its worker relies on them
and on the end of the loop. The flag that the shutdown polls alone would not do: between the look at
the active flag and the mark of the claim that follows, a consumer that is about to claim a job
still seems idle. The wait for the end of the loop closes this gap.

* `LoopPoint.Fits`: what the flags say at each point of the loop.
* `Lifecycle.Sound.step`: every step keeps the flags in agreement with the loop.
* `Lifecycle.leads_tick`, `Lifecycle.leads_drain`: without interruption the steps of a lifecycle are
  those of `Queue.tick` and of `Worker.drain`.
* `Lifecycle.claims_step`: once the consumer is stopped, only a claim that is due is begun.
* `Lifecycle.shutdown_drains`: a worker that shuts down finishes what its consumer has begun.
-/

namespace SyncQueue

open Relation (ReflTransGen)

variable {σ : Type} {q : Queue σ} {consumer : Nat}

/-! ## Flags and points -/

/-- No tick of the consumer is running, and the consumer neither claims nor processes a job. -/
def ConsumerFlags.IsIdle (f : ConsumerFlags) : Prop := f.ticking = false ∧ f.inFlight = false

namespace LoopPoint

/-- The loop holds the mark of the running tick. -/
def isTicking : LoopPoint → Bool
  | poll | enter | lock | ended _ | sleep | returned => false
  | _ => true

/-- The consumer has to be marked as in flight, or has to be idle. -/
def inFlight? : LoopPoint → Option Bool
  | claim _ | claiming _ | start _ _ | attempt _ _ _ _ | unmark _ _ => some true
  | again _ | leave _ => none
  | _ => some false

/-- The flags of the consumer are right for the point. -/
structure Fits (point : LoopPoint) (f : ConsumerFlags) : Prop where
  ticking : f.ticking = point.isTicking
  inFlight : ∀ b, point.inFlight? = some b → f.inFlight = b

variable {point point' : LoopPoint} {f f' : ConsumerFlags}

/-- A step of the loop leaves the flags right for the next point. -/
theorem Steps.fits (h : Steps f f' point point') (hfits : point.Fits f) : point'.Fits f' := by
  obtain ⟨hticking, hinFlight⟩ := hfits
  -- each step sets the flags by which its two points differ; only a tick that finds another one
  -- running would not, and the flags of the point before it rule that out
  cases h <;> subst f' <;> exact ⟨by simp_all [isTicking], by simp_all [inFlight?]⟩

theorem Steps.active (h : Steps f f' point point') : f'.active = f.active := by
  cases h <;> subst f' <;> rfl

/-- What the loop of an inactive consumer may still begin becomes no more. -/
theorem Steps.isPastTest (h : Steps f f' point point') (hinactive : f.active = false) :
    (point'.isPastTest → point.isPastTest) ∧
      (point.isBeginning → point.isPastTest ∧ point'.isPastTest = false) := by
  cases h <;> simp_all [LoopPoint.isPastTest, isBeginning]

theorem Steps.returned (h : Steps f f' .returned point') : point' = .returned := by
  cases h
  rfl

theorem Fits.inFlight_of_isWorking (h : point.Fits f) (hworking : point.isWorking) :
    f.inFlight = true := by
  cases point with
  | claiming | start | attempt => exact h.inFlight true rfl
  | _ => cases hworking

/-- Outside a tick no mark is left. -/
theorem Fits.isIdle (h : point.Fits f) (houtside : point.isTicking = false) : f.IsIdle := by
  refine ⟨h.ticking.trans houtside, h.inFlight false ?_⟩
  cases point <;> first | rfl | cases houtside

end LoopPoint

/-! ## The worker -/

namespace Lifecycle

variable {l l' : Lifecycle σ}

/-- The flags are right for the loop, and the database is closed only after the loop has
returned. -/
structure Sound (consumer : Nat) (l : Lifecycle σ) : Prop where
  fits : l.loop.Fits (l.world.flags consumer)
  closing : l.isClosing → l.loop = .returned

theorem flags_stop {w w' : World σ} (h : Queue.stop consumer w = .ok () w') :
    w'.flags consumer = { w.flags consumer with active := false } := by
  cases hactive : (w.flags consumer).active with
  | true =>
    simp only [Queue.stop, bind_apply, get_apply, hactive, if_true, modify_apply] at h
    cases h
    simp [World.logged, World.withFlags]
  | false =>
    simp only [Queue.stop, bind_apply, get_apply, hactive, Bool.false_eq_true, if_false] at h
    cases h
    rw [← hactive]

/-- Stopping a consumer changes its active flag only. -/
theorem Stops.spec (h : l.Stops consumer l') :
    l'.world.flags consumer = { l.world.flags consumer with active := false } ∧
      l'.loop = l.loop ∧ l'.begun = l.begun ∧ (l'.isClosing → l.isClosing) := by
  cases h with
  | outside hw => exact ⟨flags_stop hw, rfl, rfl, id⟩
  | shutdown h hw => exact ⟨flags_stop hw, rfl, rfl, fun hclosing => by cases hclosing⟩

/-- The shutdown changes neither the flags nor the loop, and it closes only after the loop has
returned. -/
theorem ShutdownStep.spec (h : l.ShutdownStep consumer l') :
    l'.world.flags = l.world.flags ∧ l'.loop = l.loop ∧ l'.begun = l.begun ∧
      (l'.isClosing → l.isClosing ∨ l.loop = .returned) := by
  cases h with
  | join h hloop => exact ⟨rfl, rfl, rfl, fun _ => .inr hloop⟩
  | close h => exact ⟨rfl, rfl, rfl, fun _ => .inl (by rw [isClosing, h])⟩
  | wait | wake | watch | quiet =>
    exact ⟨rfl, rfl, rfl, fun hclosing => by cases hclosing⟩

theorem Step.loop_steps {answer : Answer} {point : LoopPoint} {w : World σ}
    (h : l.loop.step q consumer (fun _ w => (answer, w)) l.world = .ok point w) :
    LoopPoint.Steps (l.world.flags consumer) (w.flags consumer) l.loop point :=
  (LoopPoint.step_meets q consumer answer l.loop l.world).ok_of_eq h

/-- **Every step** keeps the flags in agreement with the loop. -/
theorem Sound.step (h : Step q consumer l l') (hsound : l.Sound consumer) : l'.Sound consumer := by
  obtain ⟨hfits, hclosing⟩ := hsound
  cases h with
  | loop answer h =>
    refine ⟨(Step.loop_steps h).fits hfits, fun hl => ?_⟩
    have hsteps := Step.loop_steps h
    rw [hclosing hl] at hsteps
    exact hsteps.returned
  | woken h hawake =>
    rw [h] at hfits
    exact ⟨⟨hfits.ticking, hfits.inFlight⟩, fun _ => rfl⟩
  | stop h =>
    obtain ⟨hflags, hloop, -, hclose⟩ := h.spec
    refine ⟨?_, fun hl => hloop.trans (hclosing (hclose hl))⟩
    rw [hloop, hflags]
    exact ⟨hfits.ticking, hfits.inFlight⟩
  | wake h => exact ⟨hfits, hclosing⟩
  | shutdown h =>
    obtain ⟨hflags, hloop, -, hclose⟩ := h.spec
    refine ⟨?_, fun hl => hloop.trans ((hclose hl).elim hclosing id)⟩
    rw [hloop, hflags]
    exact hfits
  | elsewhere hw => exact ⟨by rw [hw]; exact hfits, hclosing⟩

/-! ## Runs -/

/-- Steps lead from one lifecycle to the other. -/
def Leads (q : Queue σ) (consumer : Nat) : Lifecycle σ → Lifecycle σ → Prop :=
  ReflTransGen (Step q consumer)

/-- The lifecycle comes about from the start of a worker with a new consumer. -/
def Arises (q : Queue σ) (consumer : Nat) (l : Lifecycle σ) : Prop :=
  ∃ w, w.flags consumer = .fresh ∧ Leads q consumer (initial w) l

/-- The steps of the loop, one after another, are steps of the lifecycle. -/
theorem leads_of_runs {answer : Answer} {x y : LoopPoint × World σ}
    (h : LoopPoint.Runs q consumer (fun _ w => (answer, w)) x y) (hloop : l.loop = x.1)
    (hworld : l.world = x.2) :
    ∃ begun, Leads q consumer l { l with world := y.2, loop := y.1, begun } := by
  induction h with
  | refl =>
    rw [← hloop, ← hworld]
    exact ⟨l.begun, .refl⟩
  | tail _ hstep ih =>
    obtain ⟨begun, hl⟩ := ih
    exact ⟨_, hl.tail (.loop answer hstep)⟩

/-- **A tick** that nothing interrupts takes the lifecycle from its beginning to its end. -/
theorem leads_tick (q : Queue σ) (consumer : Nat) (answer : Answer) (patience : Nat)
    (hloop : l.loop = .enter) :
    Meets (q.tick consumer (fun _ w => (answer, w)) patience) l.world
      (fun r w => ∀ n, r = some n →
        ∃ begun, Leads q consumer l { l with world := w, loop := .ended (.ok n), begun })
      fun e w =>
        ∃ begun, Leads q consumer l { l with world := w, loop := .ended (.error e), begun } :=
  (LoopPoint.runs_tick q consumer _ patience l.world).mono
    (fun _ _ h n hn => leads_of_runs (h n hn) hloop rfl) fun _ _ h => leads_of_runs h hloop rfl

/-- The shutdown begins as the worker drains its consumer. -/
theorem leads_drain {worker : Worker} {w : World σ} (hshutdown : l.shutdown = .wait)
    (hw : worker.drain l.world = .ok () w) :
    Leads q worker.consumer l { l with world := w, shutdown := .wake } := by
  have hstop : Queue.stop worker.consumer (l.world.logged .shutdownRequested) = .ok () w := hw
  have hwait : Leads q worker.consumer l
      { l with world := l.world.logged .shutdownRequested, shutdown := .stop } :=
    ReflTransGen.single (.shutdown (.wait hshutdown))
  exact hwait.tail (.stop (.shutdown rfl hstop))

theorem Arises.sound (h : l.Arises q consumer) : l.Sound consumer := by
  obtain ⟨w, hw, h⟩ := h
  induction h with
  | refl =>
    refine ⟨⟨by rw [initial, hw]; rfl, fun b hb => ?_⟩, fun hclosing => by cases hclosing⟩
    cases hb
    rw [initial, hw]
    rfl
  | tail _ hstep ih => exact ih.step hstep

/-- The claims begun, and the one that is due. -/
def claims (l : Lifecycle σ) : Nat := l.begun + if l.loop.isPastTest then 1 else 0

/-- **A stopped consumer** begins a claim only if it is due. -/
theorem claims_step (h : Step q consumer l l')
    (hinactive : (l.world.flags consumer).active = false) :
    (l'.world.flags consumer).active = false ∧ l'.claims ≤ l.claims := by
  cases h with
  | @loop answer point w h =>
    have hsteps := Step.loop_steps h
    obtain ⟨hpast, hbeginning⟩ := hsteps.isPastTest hinactive
    refine ⟨hsteps.active.trans hinactive, ?_⟩
    unfold claims
    dsimp only
    cases hb : l.loop.isBeginning with
    | true =>
      obtain ⟨hdue, hdone⟩ := hbeginning hb
      simp [hdue, hdone]
    | false =>
      cases hp : point.isPastTest with
      | true => simp [hpast hp]
      | false => simp
  | woken h hawake =>
    refine ⟨hinactive, ?_⟩
    simp [claims, h, LoopPoint.isPastTest]
  | stop h =>
    obtain ⟨hflags, hloop, hbegun, -⟩ := h.spec
    rw [claims, hloop, hbegun, hflags]
    exact ⟨rfl, Nat.le_refl _⟩
  | wake h => exact ⟨hinactive, Nat.le_refl _⟩
  | shutdown h =>
    obtain ⟨hflags, hloop, hbegun, -⟩ := h.spec
    rw [claims, hloop, hbegun, hflags]
    exact ⟨hinactive, Nat.le_refl _⟩
  | elsewhere hw => exact ⟨by rw [hw]; exact hinactive, Nat.le_refl _⟩

theorem Leads.claims_le (h : Leads q consumer l l')
    (hinactive : (l.world.flags consumer).active = false) : l'.claims ≤ l.claims := by
  have hboth : (l'.world.flags consumer).active = false ∧ l'.claims ≤ l.claims := by
    induction h with
    | refl => exact ⟨hinactive, Nat.le_refl _⟩
    | tail _ hstep ih =>
      obtain ⟨hstill, hle⟩ := claims_step hstep ih.1
      exact ⟨hstill, Nat.le_trans hle ih.2⟩
  exact hboth.2

end Lifecycle

/-! ## Ticks -/

namespace Queue

theorem drain_idle (q : Queue σ) (executor : Executor σ) (fuel n : Nat) {w : World σ}
    (h : (w.flags consumer).inFlight = false) :
    Meets (q.drain consumer executor fuel n) w
      (fun _ w' => (w'.flags consumer).inFlight = false)
      fun _ w' => (w'.flags consumer).inFlight = false := by
  induction fuel generalizing n w with
  | zero => exact h
  | succ fuel ih =>
    refine Meets.get_bind ?_
    split
    · exact h
    · refine Meets.modify_bind (Meets.bind (P := fun _ w' => (w'.flags consumer).inFlight = false)
        (F := fun _ w' => (w'.flags consumer).inFlight = false) (Meets.finallyModify ?_)
        (fun attempted w₁ h₁ => ?_) fun _ _ h => h)
      · exact (Meets.result _ _).mono (fun _ _ _ => by simp) fun _ _ _ => by simp
      · cases attempted with
        | true => exact ih (n + 1) h₁
        | false => exact h₁

/-- **A tick** of an idle consumer leaves it idle, whether it fails or not and whatever the executor
does. -/
theorem tick_idle (q : Queue σ) (executor : Executor σ) (patience : Nat) {w : World σ}
    (h : (w.flags consumer).IsIdle) :
    Meets (q.tick consumer executor patience) w (fun _ w' => (w'.flags consumer).IsIdle)
      fun _ w' => (w'.flags consumer).IsIdle := by
  refine Meets.get_bind ?_
  dsimp only
  split
  · exact h
  · rw [h.1, if_neg Bool.false_ne_true]
    refine Meets.modify_bind (Meets.finallyModify ?_)
    have hstart : ((LoopPoint.setTicking consumer true w).flags consumer).inFlight = false := by
      simpa using h.2
    refine (q.drain_idle executor _ 0 hstart).mono (fun _ w₁ h₁ => ?_) fun _ w₁ h₁ => ?_
    · exact ⟨by simp [World.withFlags], by simpa [World.withFlags, World.emitted] using h₁⟩
    · exact ⟨by simp [World.withFlags], by simpa [World.withFlags, World.emitted] using h₁⟩

end Queue

/-! ## Shutting down -/

namespace Lifecycle

variable {l : Lifecycle σ}

/-- **A shutdown drains.** In every lifecycle of a worker, however the steps of the loop, of the
shutdown and of others follow one another, and whatever executors answer and the store refuses:

1. From the beginning of a claim to the end of the attempt of the claimed job the consumer is marked
   as in flight, and the database is open.
2. After the consumer has been made inactive at most one claim is begun, and none unless the loop
   had found the consumer active before.
3. The database is closed only after the loop has returned.
4. When a tick has ended, neither mark is left, and so it is with the tick that `Queue.tick` makes
   at any point outside a tick, whether it succeeds or fails. -/
theorem shutdown_drains (h : l.Arises q consumer) :
    (l.loop.isWorking → (l.world.flags consumer).inFlight = true ∧ l.isClosing = false) ∧
      (∀ l₁ l₂, l.Stops consumer l₁ → Leads q consumer l₁ l₂ →
        l₂.begun ≤ l.begun + if l.loop.isPastTest then 1 else 0) ∧
      (l.isClosing → l.loop = .returned) ∧
      (∀ outcome, l.loop = .ended outcome → (l.world.flags consumer).IsIdle) ∧
      (l.loop.isTicking = false → ∀ executor patience,
        Meets (q.tick consumer executor patience) l.world
          (fun _ w => (w.flags consumer).IsIdle) fun _ w => (w.flags consumer).IsIdle) := by
  obtain ⟨hfits, hclosing⟩ := h.sound
  refine ⟨fun hworking => ⟨hfits.inFlight_of_isWorking hworking, ?_⟩,
    fun l₁ l₂ hstops hleads => ?_, hclosing, ?_, ?_⟩
  · rw [Bool.eq_false_iff]
    intro hclose
    rw [hclosing hclose] at hworking
    cases hworking
  · obtain ⟨hflags, hloop, hbegun, -⟩ := hstops.spec
    have hclaims := hleads.claims_le (by rw [hflags])
    unfold claims at hclaims
    rw [hloop, hbegun] at hclaims
    omega
  · intro outcome hended
    exact hfits.isIdle (by rw [hended]; rfl)
  · intro houtside executor patience
    exact q.tick_idle executor patience (hfits.isIdle houtside)

/-- A shutdown can find the consumer idle although the consumer has seen that it is active and is
about to claim a job. When it begins the claim, the shutdown waits for the loop: the database is
open, and no further claim is begun. -/
theorem shutdown_drains_late :
    ∃ l : Lifecycle Unit, l.loop = .claiming 0 ∧ l.shutdown = .join ∧
      (l.world.flags 0).inFlight = true ∧ l.isClosing = false ∧
      ∀ l₁ l₂, l.Stops 0 l₁ → Leads .plain 0 l₁ l₂ → l₂.begun ≤ l.begun := by
  have hloop {l : Lifecycle Unit} {point : LoopPoint} {w : World Unit}
      (hl : Leads .plain 0 (initial (.initial ⟨0⟩ .empty ())) l)
      (h : l.loop.step .plain 0 (fun _ w => (.error "", w)) l.world = .ok point w) :
      Leads .plain 0 (initial (.initial ⟨0⟩ .empty ())) _ := hl.tail (.loop (.error "") h)
  have hactive := hloop (hloop (hloop (hloop .refl rfl) rfl) rfl) rfl
  have hstopped := (hactive.tail (.shutdown (.wait rfl))).tail (.stop (.shutdown rfl rfl))
  have hidle := (hstopped.tail (.shutdown (.wake rfl))).tail (.shutdown (.watch rfl rfl))
  have hlate := hloop (hloop (hidle.tail (.shutdown (.quiet rfl))) rfl) rfl
  obtain ⟨hworking, hclaims, -⟩ := shutdown_drains ⟨_, rfl, hlate⟩
  exact ⟨_, rfl, rfl, (hworking rfl).1, (hworking rfl).2, hclaims⟩

end Lifecycle

end SyncQueue
