import SyncQueue.Proofs.Attempts
import SyncQueue.Proofs.Serving
import SyncQueue.Queue.Fleet

/-!
# Runs of a fleet

`Fleet.Moves` lists what each move of a fleet can do, in terms of the steps of requests and
attempts (`Fleet.act_moves`). A run is a sequence of moves; each of them may be made by another
queue, so that the consumers of a fleet may differ in everything that a queue sets: the backoff, the
circuit breaker, the sink, the words and the identifiers that are drawn, and the statements that the
store refuses. A `Fleet.Rule` says which moves a run may have.

* `Fleet.Leads`: a run from one fleet to another.
* `Fleet.Arises`: a run from an empty store.
* `Fleet.Arises.induction`: what an empty store has and every move keeps, every fleet has.
-/

namespace SyncQueue

open Time (Instant)
open Relation (ReflTransGen)

variable {σ : Type}

namespace Fleet

/-! ## Moves -/

/-- What a move of a fleet can do. -/
inductive Moves (q : Queue σ) (f : Fleet σ) : Move → Fleet σ → Prop where
  | clock (now : Instant) : Moves q f (.clock now) { f with world.now := now }
  | scheduled {d : Int} {r : ScheduleRequest} {answer : Except QueueError ScheduledJob}
      {w : World σ} (h : ReflTransGen (Phase.Steps q r) (.start d r, f.world) (.done answer, w)) :
      Moves q f (.schedule d r)
        { f with world := w, history := .scheduled r answer :: f.history }
  | requested {d : Int} {r : ScheduleRequest} :
      Moves q f (.request d r) { f with requests := f.requests ++ [⟨r, .start d r⟩] }
  | served {n : Nat} {r : OpenRequest} {p : Phase} {w : World σ} (hn : f.requests[n]? = some r)
      (h : Phase.Steps q r.request (r.phase, f.world) (p, w)) :
      Moves q f (.serve n)
        { world := w
          requests := f.requests.set n ⟨r.request, p⟩
          held := f.held
          history := requestDeeds r.request r.phase p ++ f.history }
  | unserved {n : Nat} (hn : f.requests[n]? = none) : Moves q f (.serve n) f
  | claimed {job : Job} {w : World σ} (hbest : f.world.tables.best? f.world.now = some job)
      (hw : f.world.Becomes (f.world.tables.withClaim job.id f.world.now) f.world.events w) :
      Moves q f .claim
        { f with
          world := w
          held := f.held ++ [⟨job.claimed f.world.now, .claimed⟩]
          history := .claimed (job.claimed f.world.now) f.world.now :: f.history }
  | unclaimed {w : World σ} (h : q.IsFallible ∨ f.world.tables.best? f.world.now = none)
      (hw : f.world.Stays w) : Moves q f .claim { f with world := w }
  | advanced {n : Nat} {answer : Answer} {h : HeldJob} {stage : AttemptStage} {w : World σ}
      (hn : f.held[n]? = some h)
      (hstep : AttemptStage.Steps q h.job answer f.world h.stage stage w) :
      Moves q f (.advance n answer)
        { f with
          world := w
          held := f.held.set n ⟨h.job, stage⟩
          history := attemptDeeds h.job h.stage stage ++ f.history }
  | unadvanced {n : Nat} {answer : Answer} (hn : f.held[n]? = none) :
      Moves q f (.advance n answer) f

theorem schedule_moves (q : Queue σ) (d : Int) (r : ScheduleRequest) (f : Fleet σ) :
    Moves q f (.schedule d r) (f.schedule q d r) := by
  have h := Phase.schedule_steps q d r f.world
  unfold schedule
  cases hrun : q.schedule d r f.world with
  | ok s w =>
    rw [hrun] at h
    exact .scheduled h
  | error e w =>
    rw [hrun] at h
    exact .scheduled h

theorem serve_moves (q : Queue σ) (n : Nat) (f : Fleet σ) : Moves q f (.serve n) (f.serve q n) := by
  unfold serve
  cases hn : f.requests[n]? with
  | none => exact .unserved hn
  | some r => exact .served hn (Phase.step_steps q r.request r.phase f.world)

theorem claim_moves (q : Queue σ) (f : Fleet σ) : Moves q f .claim (f.claim q) := by
  have h := q.claim_meets f.world
  unfold claim
  cases hrun : q.claim f.world with
  | ok claimed w =>
    obtain ⟨rfl, hbest, hw⟩ | ⟨job, rfl, hbest, hw⟩ := h.ok_of_eq hrun
    · exact .unclaimed (.inr hbest) hw
    · exact .claimed hbest hw
  | error e w =>
    obtain ⟨hw, hq⟩ := h.error_of_eq hrun
    exact .unclaimed (.inl hq) hw

theorem advance_moves (q : Queue σ) (n : Nat) (answer : Answer) (f : Fleet σ) :
    Moves q f (.advance n answer) (f.advance q n answer) := by
  unfold advance
  cases hn : f.held[n]? with
  | none => exact .unadvanced hn
  | some h =>
    have hmeets := AttemptStage.step_meets q h.job answer h.stage f.world
    dsimp only
    cases hrun : h.stage.step q (fun _ w => (answer, w)) h.job f.world with
    | ok stage w => exact .advanced hn (hmeets.ok_of_eq hrun)
    | error e w => exact (hmeets.error_of_eq hrun).elim

/-- **A move of a fleet** is one of those listed. -/
theorem act_moves (q : Queue σ) (f : Fleet σ) (m : Move) : Moves q f m (f.act q m) := by
  cases m with
  | clock now => exact .clock now
  | schedule d r => exact schedule_moves q d r f
  | request d r => exact .requested
  | serve n => exact serve_moves q n f
  | claim => exact claim_moves q f
  | advance n answer => exact advance_moves q n answer f

/-- An element of a list of which one has been replaced. -/
theorem getElem?_set_cases {α : Type} {l : List α} {n i : Nat} {a b : α}
    (h : (l.set n b)[i]? = some a) : (i = n ∧ a = b) ∨ (i ≠ n ∧ l[i]? = some a) := by
  rw [List.getElem?_set] at h
  split at h
  · split at h
    · exact .inl ⟨Eq.symm ‹n = i›, (Option.some.inj h).symm⟩
    · cases h
  · exact .inr ⟨Ne.symm ‹¬n = i›, h⟩

/-- A step of a request does nothing but answer it. -/
theorem mem_requestDeeds {r : ScheduleRequest} {p p' : Phase} {d : Deed}
    (h : d ∈ requestDeeds r p p') : ∃ answer, d = .scheduled r answer := by
  unfold requestDeeds at h
  split at h
  · exact ⟨_, List.mem_singleton.1 h⟩
  · cases h

/-- What has happened is not forgotten. -/
theorem act_history (q : Queue σ) (f : Fleet σ) (m : Move) :
    ∃ new, (f.act q m).history = new ++ f.history := by
  have hmoves := act_moves q f m
  generalize f.act q m = g at hmoves
  cases hmoves with
  | clock | requested | unserved | unclaimed | unadvanced => exact ⟨[], rfl⟩
  | scheduled | claimed => exact ⟨[_], rfl⟩
  | served | advanced => exact ⟨_, rfl⟩

/-! ## Runs -/

/-- Which moves a fleet may make, and with which queues. -/
abbrev Rule (σ : Type) := Fleet σ → Queue σ → Move → Prop

/-- Every move may be made. -/
def Rule.free : Rule σ := fun _ _ _ => True

/-- One move under a rule. -/
def Step (rule : Rule σ) (f g : Fleet σ) : Prop := ∃ q m, rule f q m ∧ g = f.act q m

/-- A run under a rule leads from one fleet to the other. -/
def Leads (rule : Rule σ) : Fleet σ → Fleet σ → Prop := ReflTransGen (Step rule)

/-- The fleet comes about under a rule by a run from an empty store. -/
def Arises (rule : Rule σ) (f : Fleet σ) : Prop :=
  ∃ now surroundings, Leads rule (initial now surroundings) f

variable {rule : Rule σ} {f g : Fleet σ}

/-- What every move keeps, every run keeps. -/
theorem Leads.induction {P : Fleet σ → Prop} (h : Leads rule f g)
    (hmove : ∀ f q m, rule f q m → P f → P (f.act q m)) (hf : P f) : P g := by
  induction h with
  | refl => exact hf
  | tail _ hstep ih =>
    obtain ⟨q, m, hrule, rfl⟩ := hstep
    exact hmove _ q m hrule ih

/-- What an empty store has and every move keeps, every fleet has. -/
theorem Arises.induction {P : Fleet σ → Prop} (h : Arises rule f)
    (hinitial : ∀ now surroundings, P (initial now surroundings))
    (hmove : ∀ f q m, rule f q m → P f → P (f.act q m)) : P f := by
  obtain ⟨now, surroundings, h⟩ := h
  exact h.induction hmove (hinitial now surroundings)

/-- What an empty store has and every move of a fleet that comes about keeps, every fleet has. -/
theorem Arises.induction_arises {P : Fleet σ → Prop} (h : Arises rule f)
    (hinitial : ∀ now surroundings, P (initial now surroundings))
    (hmove : ∀ f q m, Arises rule f → P f → P (f.act q m)) : P f := by
  obtain ⟨now, surroundings, h⟩ := h
  induction h with
  | refl => exact hinitial now surroundings
  | tail hrun hstep ih =>
    obtain ⟨q, m, -, rfl⟩ := hstep
    exact hmove _ q m ⟨now, surroundings, hrun⟩ ih

theorem Arises.leads (h : Arises rule f) (hg : Leads rule f g) : Arises rule g := by
  obtain ⟨now, surroundings, h⟩ := h
  exact ⟨now, surroundings, ReflTransGen.trans h hg⟩

/-- Moves that a queue may make at any time are a run. -/
theorem Leads.run {q : Queue σ} (hrule : ∀ f m, rule f q m) (f : Fleet σ) (moves : List Move) :
    Leads rule f (f.run q moves) := by
  induction moves generalizing f with
  | nil => exact .refl
  | cons m moves ih => exact .head ⟨q, m, hrule f m, rfl⟩ (ih (f.act q m))

/-- A queue may make all of the moves, each when its turn comes. -/
def Follows (rule : Rule σ) (q : Queue σ) : Fleet σ → List Move → Prop
  | _, [] => True
  | f, m :: moves => rule f q m ∧ Follows rule q (f.act q m) moves

instance Follows.decidable {rule : Rule σ} {q : Queue σ} [∀ f m, Decidable (rule f q m)] :
    ∀ (f : Fleet σ) (moves : List Move), Decidable (Follows rule q f moves)
  | _, [] => .isTrue trivial
  | f, m :: moves =>
    have : Decidable (Follows rule q (f.act q m) moves) := Follows.decidable _ _
    inferInstanceAs (Decidable (rule f q m ∧ Follows rule q (f.act q m) moves))

theorem Leads.follows {q : Queue σ} {moves : List Move} (h : Follows rule q f moves) :
    Leads rule f (f.run q moves) := by
  induction moves generalizing f with
  | nil => exact .refl
  | cons m moves ih => exact .head ⟨q, m, h.1, rfl⟩ (ih h.2)

end Fleet

/-! ## A small queue -/

/-- A queue on a store that refuses nothing. -/
def Queue.plain : Queue Unit where
  backoff := ⟨.zero false, ⟨60, 0⟩⟩
  breaker := ⟨1, .ofMillis 1000⟩
  sink := .recording
  faults _ _ := none
  jobId n := ⟨BitVec.ofNat 128 n⟩
  word _ := 0

theorem Queue.not_isFallible_plain : ¬Queue.plain.IsFallible := by
  rintro ⟨_, _, hfault⟩
  exact hfault rfl

/-- A request for a window, with an idempotency key or without one. -/
def ScheduleRequest.plain (idempotencyKey : Option String) : ScheduleRequest where
  key := ⟨⟨1⟩, ⟨2⟩⟩
  windowStart := ⟨0⟩
  windowEnd := ⟨1⟩
  priority := none
  payload := none
  idempotencyKey
  maxRetries := none
  runAt := none

namespace Fleet

/-- The fleet that moves of the small queue lead to. -/
def plain (moves : List Move) : Fleet Unit := (initial ⟨0⟩ ()).run .plain moves

theorem plain_arises {rule : Rule Unit} (hrule : ∀ f m, rule f .plain m) (moves : List Move) :
    (plain moves).Arises rule :=
  ⟨⟨0⟩, (), .run hrule _ moves⟩

end Fleet

end SyncQueue
