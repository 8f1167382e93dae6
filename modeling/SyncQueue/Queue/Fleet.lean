import SyncQueue.Queue.Attempt
import SyncQueue.Queue.Requests

/-!
# Several consumers on one store

A fleet is a store together with the requests being served on it and the jobs that consumers hold.
It moves one statement of a request or one transaction of an attempt at a time, in any order and at
any time, so that all interleavings of several callers and consumers are runs of a fleet. The moves
are those of the queue itself: `Phase.step`, `Queue.claim` and `AttemptStage.step`.
-/

namespace SyncQueue

open Time (Instant)

variable {σ : Type}

/-- A request and how far its service has come. -/
structure OpenRequest where
  request : ScheduleRequest
  phase : Phase

/-- A claimed job as its holder knows it, and how far the attempt has come. -/
structure HeldJob where
  job : Job
  stage : AttemptStage

/-- Something that has happened in a fleet. -/
inductive Deed where
  | scheduled (request : ScheduleRequest) (answer : Except QueueError ScheduledJob)
  | claimed (job : Job) (time : Instant)
  /-- The executor answered. -/
  | executed (job : Job) (outcome : Outcome)
  /-- An attempt was finalized, and its job was left in a state. -/
  | finalized (job : Job) (status : JobStatus) (finishedAt : Instant)
  /-- A job whose attempt could not be finalized was returned, with a log row or without one. -/
  | returned (job : Job) (isLogged : Bool)

/-- A store, what is being done on it, and what has been done. -/
structure Fleet (σ : Type) where
  world : World σ
  requests : List OpenRequest
  /-- The jobs claimed so far; those whose attempts have ended are not held any more. -/
  held : List HeldJob
  /-- The deeds, newest first. -/
  history : List Deed

/-- A move of a fleet. -/
inductive Move where
  /-- The clock shows another time. -/
  | clock (now : Instant)
  /-- A request is served without a break. -/
  | schedule (defaultMaxRetries : Int) (request : ScheduleRequest)
  /-- A request arrives. -/
  | request (defaultMaxRetries : Int) (request : ScheduleRequest)
  /-- The n-th request sends its next statement. -/
  | serve (n : Nat)
  /-- A consumer claims. -/
  | claim
  /-- The n-th attempt makes its next step; an executor gives the answer. -/
  | advance (n : Nat) (answer : Answer)

namespace Fleet

/-- A fleet on an empty store. -/
def initial (now : Instant) (surroundings : σ) : Fleet σ :=
  ⟨.initial now .empty surroundings, [], [], []⟩

/-- What a step of a request did, once it has been answered. -/
def requestDeeds (request : ScheduleRequest) (before after : Phase) : List Deed :=
  match before.answer?, after.answer? with
  | none, some answer => [.scheduled request answer]
  | _, _ => []

/-- What a step of an attempt did. -/
def attemptDeeds (job : Job) (before after : AttemptStage) : List Deed :=
  match before, after with
  | .executing _, .executed result .. => [.executed job result.outcome]
  | .executed _ _ finishedAt _, .ended (.ok status) => [.finalized job status finishedAt]
  | .failed .., .ended _ => [.returned job true]
  | .unlogged .., .ended _ => [.returned job false]
  | _, _ => []

/-- Let a request send its next statement. -/
def serve (q : Queue σ) (n : Nat) (f : Fleet σ) : Fleet σ :=
  match f.requests[n]? with
  | none => f
  | some r =>
    let (phase, world) := r.phase.step q r.request f.world
    { world
      requests := f.requests.set n { r with phase }
      held := f.held
      history := requestDeeds r.request r.phase phase ++ f.history }

/-- Let a consumer claim. -/
def claim (q : Queue σ) (f : Fleet σ) : Fleet σ :=
  match q.claim f.world with
  | .ok (some job) world =>
    { f with
      world
      held := f.held ++ [⟨job, .claimed⟩]
      history := .claimed job f.world.now :: f.history }
  | .ok none world | .error _ world => { f with world }

/-- Let an attempt make its next step. -/
def advance (q : Queue σ) (n : Nat) (answer : Answer) (f : Fleet σ) : Fleet σ :=
  match f.held[n]? with
  | none => f
  | some h =>
    match h.stage.step q (fun _ w => (answer, w)) h.job f.world with
    | .ok stage world =>
      { f with
        world
        held := f.held.set n { h with stage }
        history := attemptDeeds h.job h.stage stage ++ f.history }
    | .error _ world => { f with world }

/-- Serve a request without a break. -/
def schedule (q : Queue σ) (defaultMaxRetries : Int) (request : ScheduleRequest) (f : Fleet σ) :
    Fleet σ :=
  match q.schedule defaultMaxRetries request f.world with
  | .ok s world => { f with world, history := .scheduled request (.ok s) :: f.history }
  | .error e world => { f with world, history := .scheduled request (.error e) :: f.history }

/-- Make a move. -/
def act (q : Queue σ) (f : Fleet σ) : Move → Fleet σ
  | .clock now => { f with world.now := now }
  | .schedule defaultMaxRetries request => f.schedule q defaultMaxRetries request
  | .request defaultMaxRetries request =>
    { f with requests := f.requests ++ [⟨request, .start defaultMaxRetries request⟩] }
  | .serve n => f.serve q n
  | .claim => f.claim q
  | .advance n answer => f.advance q n answer

/-- Make moves in order. -/
def run (q : Queue σ) (f : Fleet σ) (moves : List Move) : Fleet σ := moves.foldl (act q) f

end Fleet

end SyncQueue
