import SyncQueue.Proofs.Custody

/-!
# The books of a fleet

What a fleet can be held to account for: the log table, the reported events, and what its history
and its attempts say about them. `Fleet.books` gathers these accounts, and `Fleet.Entries` lists
what a move enters in them, together with what it does to the jobs. Only two kinds of moves enter
anything: an executor answers, or an attempt ends.

* `AttemptStage.Steps.enters`: the entries of one step of an attempt.
* `Job.Ends`: the four ways in which an attempt ends, each with its write, its log row, its events
  and its deed.
* `Fleet.act_entries`: the entries of a move.
-/

namespace SyncQueue

open Time (Instant)

variable {σ : Type}

/-! ## How attempts end -/

namespace Deed

/-- The outcome with which an executor answered. -/
def outcome? : Deed → Option Outcome
  | executed _ outcome => some outcome
  | _ => none

/-- The job with the identifier was returned without a log row. -/
def isBareReturn (id : Uuid) : Deed → Bool
  | returned job false => decide (job.id = id)
  | _ => false

end Deed

/-- What the end of an attempt does: the write of the row, the rows of the log, the events, newest
first, and the deed. -/
structure Ending where
  write : Job → Job
  logs : List AttemptLog
  events : List Event
  deed : Deed

/-- The ways in which the attempt of a job ends. -/
inductive Job.Ends (held : Job) : Ending → Prop where
  | completed {result : ExecutionResult} (hresult : result.isFailure = false)
      (startedAt finishedAt : Instant) {noise : List Event} (hnoise : ∀ e ∈ noise, e.isDepth) :
      Ends held
        { write := (·.completed finishedAt)
          logs := [held.attempt result startedAt finishedAt]
          events := noise ++ [.status .completed held.key.connector]
          deed := .finalized held .completed finishedAt }
  | failed {result : ExecutionResult} (hresult : result.isFailure = true)
      (due startedAt finishedAt : Instant) :
      Ends held
        { write := held.afterFailure due (result.errorSummary.getD "") finishedAt
          logs := [held.attempt result startedAt finishedAt]
          events := held.failureEvents
          deed := .finalized held held.nextStatus finishedAt }
  | returned (result : ExecutionResult) (cause : QueueError) (due startedAt now : Instant) :
      Ends held
        { write := held.afterFailure due (Queue.releaseSummary cause) now
          logs := [held.attempt (.failure result.processedEvents result.failedEvents
            (Queue.releaseSummary cause)) startedAt now]
          events := held.failureEvents
          deed := .returned held true }
  | returnedRow (cause : QueueError) (due now : Instant) :
      Ends held
        { write := held.afterFailure due (Queue.releaseSummary cause) now
          logs := []
          events := held.failureEvents
          deed := .returned held false }

namespace Job.Ends

variable {held : Job} {e : Ending}

theorem key_write (h : held.Ends e) (row : Job) : (e.write row).key = row.key := by
  cases h <;> rfl

theorem outcome?_deed (h : held.Ends e) : e.deed.outcome? = none := by
  cases h <;> rfl

end Job.Ends

/-! ## What a step of an attempt enters -/

namespace AttemptStage

/-- The executor has been called. -/
def isCalled : AttemptStage → Bool
  | claimed => false
  | _ => true

/-- The executor has been called and has not answered yet. -/
def isExecuting : AttemptStage → Bool
  | executing _ => true
  | _ => false

/-- The executor has answered. -/
def isAnswered : AttemptStage → Bool
  | claimed | executing _ => false
  | _ => true

/-- What a step of the attempt of a job enters in the books. -/
inductive Enters (job : Job) (answer : Answer) (w : World σ) :
    AttemptStage → AttemptStage → World σ → Prop where
  | rests {stage stage' : AttemptStage} {w' : World σ}
      (silent : stage.isExecuting = false)
      (outstanding : stage'.isOutstanding = stage.isOutstanding)
      (answered : stage'.isAnswered = stage.isAnswered)
      (deeds : Fleet.attemptDeeds job stage stage' = [])
      (tables : w'.tables = w.tables) (events : w'.events = w.events) :
      Enters job answer w stage stage' w'
  | answers {startedAt finishedAt : Instant} {n : Nat} {w' : World σ}
      (tables : w'.tables = w.tables)
      (events : w'.events = .duration answer.toResult.outcome :: w.events) :
      Enters job answer w (.executing startedAt)
        (.executed answer.toResult startedAt finishedAt n) w'
  | ends {stage stage' : AttemptStage} {w' : World σ} {e : Ending} (hends : job.Ends e)
      (outstanding : stage.isOutstanding = true) (settled : stage'.isOutstanding = false)
      (answered : stage.isAnswered = true) (still : stage'.isAnswered = true)
      (deeds : Fleet.attemptDeeds job stage stage' = [e.deed])
      (write : w.tables.Rewrites job.id e.write w'.tables)
      (logs : w'.tables.logs = w.tables.logs ++ e.logs)
      (events : w'.events = e.events ++ w.events) :
      Enters job answer w stage stage' w'

end AttemptStage

namespace Tables

variable (t : Tables) (policy : BreakerPolicy) (key : SyncKey) (n : Int) (now : Instant)

@[simp] theorem logs_putStat (stat : FailureStat) : (t.putStat stat).logs = t.logs := by
  unfold putStat
  split <;> rfl

@[simp] theorem logs_raiseAlert (message : String) :
    (t.raiseAlert key message now).logs = t.logs := by
  unfold raiseAlert
  split <;> rfl

@[simp] theorem logs_withFailure : (t.withFailure policy key n now).logs = t.logs := by
  unfold withFailure
  dsimp only
  split <;> simp

end Tables

/-- **A step of an attempt** enters an answer or an end in the books, or nothing. -/
theorem AttemptStage.Steps.enters {q : Queue σ} {job : Job} {answer : Answer} {w w' : World σ}
    {stage stage' : AttemptStage} (h : Steps q job answer w stage stage' w') :
    Enters job answer w stage stage' w' := by
  cases h with
  | begins => exact .rests rfl rfl rfl rfl rfl rfl
  | executes hw => exact .answers hw.tables hw.events
  | repeats _ hw | fails _ hw | unlogs _ _ hw | strands _ hw =>
    exact .rests rfl rfl rfl rfl hw.tables hw.events
  | rests hclosed =>
    cases stage with
    | ended | stranded => exact .rests rfl rfl rfl rfl rfl rfl
    | claimed | executing | executed | failed | unlogged => cases hclosed
  | @finalizes result startedAt finishedAt n status w' hw =>
    cases hw with
    | success hresult noise hnoise hw =>
      refine .ends (.completed hresult startedAt finishedAt hnoise) rfl rfl rfl rfl rfl
        ⟨?_, fun _ => rfl⟩ ?_ ?_
      · rw [hw.tables]
        rfl
      · rw [hw.tables]
        rfl
      · rw [hw.events, List.append_assoc]
        rfl
    | failure hresult m hw =>
      refine .ends (.failed hresult (q.dueAfter job finishedAt (q.word m)) startedAt finishedAt)
        rfl rfl rfl rfl rfl ⟨?_, fun _ => rfl⟩ ?_ hw.events
      · rw [hw.tables]
        exact Tables.jobs_withFailure ..
      · rw [hw.tables]
        exact Tables.logs_withFailure ..
  | @returns result startedAt cause w' m hw =>
    refine .ends (.returned result cause (q.dueAfter job w.now (q.word m)) startedAt w.now)
      rfl rfl rfl rfl rfl ⟨?_, fun _ => rfl⟩ ?_ hw.events
    · rw [hw.tables]
      rfl
    · rw [hw.tables]
      rfl
  | @returnsRow cause due now w' hw =>
    refine .ends (.returnedRow cause due now) rfl rfl rfl rfl rfl ⟨?_, fun _ => rfl⟩ ?_ hw.events
    · rw [hw.tables]
      rfl
    · rw [hw.tables]
      exact (List.append_nil _).symm

/-! ## The books -/

/-- The accounts of a fleet. -/
@[ext]
structure Books where
  logs : List AttemptLog
  /-- The events, newest first. -/
  events : List Event
  /-- The outcomes with which executors have answered, newest first. -/
  outcomes : List Outcome
  /-- The number of attempts in which the executor has answered. -/
  answered : Nat
  /-- The number of attempts of a job that have been finalized or ended with its return. -/
  settled : Uuid → Nat
  /-- How often a job has been returned without a log row. -/
  bareReturns : Uuid → Nat

namespace Books

/-- The books after an executor has answered. -/
def answer (b : Books) (outcome : Outcome) : Books :=
  { b with
    events := .duration outcome :: b.events
    outcomes := outcome :: b.outcomes
    answered := b.answered + 1 }

/-- The books after the attempt of a job has ended. -/
def close (b : Books) (id : Uuid) (e : Ending) : Books :=
  { b with
    logs := b.logs ++ e.logs
    events := e.events ++ b.events
    settled := fun id' => b.settled id' + if id = id' then 1 else 0
    bareReturns := fun id' => b.bareReturns id' + if e.deed.isBareReturn id' then 1 else 0 }

end Books

namespace Fleet

/-- The number of attempts in which the executor has answered. -/
def answered (f : Fleet σ) : Nat := f.held.countP (·.stage.isAnswered)

/-- The number of attempts of a job that have been finalized or ended with its return. -/
def settled (f : Fleet σ) (id : Uuid) : Nat :=
  f.held.countP fun h => decide (h.job.id = id) && !h.stage.isOutstanding

/-- The outcomes with which executors have answered, newest first. -/
def outcomes (f : Fleet σ) : List Outcome := f.history.filterMap Deed.outcome?

/-- How often a job has been returned without a log row. -/
def bareReturns (f : Fleet σ) (id : Uuid) : Nat := f.history.countP (·.isBareReturn id)

/-- The books of a fleet. -/
def books (f : Fleet σ) : Books where
  logs := f.world.tables.logs
  events := f.world.events
  outcomes := f.outcomes
  answered := f.answered
  settled := f.settled
  bareReturns := f.bareReturns

/-- What a move enters in the books, and what it does to the jobs. -/
inductive Entries (f : Fleet σ) : Fleet σ → Prop where
  | rests {g : Fleet σ} (jobs : g.world.tables.jobs = f.world.tables.jobs)
      (books : g.books = f.books) : Entries f g
  | inserts {g : Fleet σ} {job : Job} (hnew : job.IsNew)
      (hfresh : f.world.tables.job? job.id = none)
      (jobs : g.world.tables.jobs = (f.world.tables.insertJob job).jobs)
      (books : g.books = f.books) : Entries f g
  | claims {g : Fleet σ} {job : Job} (now : Instant) (hmem : job ∈ f.world.tables.jobs)
      (hclaimable : job.status.isClaimable)
      (hwrite : f.world.tables.Rewrites job.id (·.claimed now) g.world.tables)
      (books : g.books = f.books) : Entries f g
  | answers {g : Fleet σ} (outcome : Outcome)
      (jobs : g.world.tables.jobs = f.world.tables.jobs)
      (books : g.books = f.books.answer outcome) : Entries f g
  | ends {g : Fleet σ} {job : Job} {e : Ending} (hout : job ∈ f.outstanding) (hends : job.Ends e)
      (hwrite : f.world.tables.Rewrites job.id e.write g.world.tables)
      (books : g.books = f.books.close job.id e) : Entries f g

/-- Requests are not in the books. -/
theorem books_served {f : Fleet σ} {w : World σ} (hw : Phase.Leaves f.world w)
    (requests : List OpenRequest) (new : List Deed)
    (hnew : ∀ d ∈ new, ∃ r answer, d = .scheduled r answer) :
    ({ world := w, requests, held := f.held, history := new ++ f.history } : Fleet σ).books =
      f.books := by
  have houtcomes : new.filterMap Deed.outcome? = [] := by
    refine List.filterMap_eq_nil_iff.2 fun d hd => ?_
    obtain ⟨r, answer, rfl⟩ := hnew d hd
    rfl
  have hreturns (id : Uuid) : new.countP (·.isBareReturn id) = 0 := by
    refine List.countP_eq_zero.2 fun d hd => ?_
    obtain ⟨r, answer, rfl⟩ := hnew d hd
    exact Bool.false_ne_true
  simp only [books, outcomes, answered, Books.mk.injEq, List.filterMap_append, houtcomes,
    List.nil_append, hw.logs, hw.events, true_and]
  refine ⟨rfl, funext fun id => ?_⟩
  simp only [bareReturns, List.countP_append, hreturns, Nat.zero_add]

/-- An element of a list that is replaced is counted no more, and the new one is. -/
theorem countP_set_add {α : Type} {p : α → Bool} {l : List α} {n : Nat} {a : α}
    (ha : l[n]? = some a) (b : α) :
    (l.set n b).countP p + (if p a then 1 else 0) = l.countP p + if p b then 1 else 0 := by
  induction l generalizing n with
  | nil => simp at ha
  | cons c l ih =>
    cases n with
    | zero =>
      obtain rfl : c = a := by simpa using ha
      simp only [List.set_cons_zero, List.countP_cons]
      omega
    | succ n =>
      have hl := ih (by simpa using ha)
      simp only [List.set_cons_succ, List.countP_cons]
      omega

/-- A step of an attempt makes the entries of an answer or of an end, or none. -/
theorem advanced_entries {f : Fleet σ} {answer : Answer} {n : Nat} {job : Job}
    {stage stage' : AttemptStage} {w : World σ} (hn : f.held[n]? = some ⟨job, stage⟩)
    (hstep : AttemptStage.Enters job answer f.world stage stage' w) :
    Entries f
      { f with
        world := w
        held := f.held.set n ⟨job, stage'⟩
        history := attemptDeeds job stage stage' ++ f.history } := by
  have hanswered := countP_set_add (p := fun h => h.stage.isAnswered) hn ⟨job, stage'⟩
  have hsettled (id : Uuid) := countP_set_add
    (p := fun h => decide (h.job.id = id) && !h.stage.isOutstanding) hn ⟨job, stage'⟩
  cases hstep with
  | rests _ houtstanding hsame hdeeds htables hevents =>
    simp only [hsame, houtstanding, Nat.add_right_cancel_iff] at hanswered hsettled
    have hlogs : w.tables.logs = f.world.tables.logs := congrArg _ htables
    refine .rests (congrArg _ htables) (Books.ext hlogs hevents ?_ hanswered (funext hsettled) ?_)
    · simp only [books, outcomes, hdeeds, List.nil_append]
    · simp only [books, hdeeds, List.nil_append]
      rfl
  | @answers startedAt finishedAt n w htables hevents =>
    have hlogs : w.tables.logs = f.world.tables.logs := congrArg _ htables
    exact .answers answer.toResult.outcome (congrArg _ htables) (Books.ext hlogs hevents rfl
      hanswered (funext fun id => Nat.add_right_cancel (hsettled id)) rfl)
  | ends hends houtstanding hclosed hbefore hafter hdeeds hwrite hlogs hevents =>
    simp only [hbefore, hafter, if_true, Nat.add_right_cancel_iff] at hanswered
    refine .ends ?_ hends hwrite (Books.ext hlogs hevents ?_ hanswered (funext fun id => ?_)
      (funext fun id => ?_))
    · exact mem_outstanding hn houtstanding
    · simp only [books, outcomes, hdeeds, List.singleton_append, List.filterMap_cons,
        hends.outcome?_deed]
      rfl
    · have hid := hsettled id
      simp only [houtstanding, hclosed, Bool.not_true, Bool.and_false, Bool.false_eq_true, if_false,
        Nat.add_zero, Bool.not_false, Bool.and_true, decide_eq_true_eq] at hid
      exact hid
    · simp only [books, bareReturns, hdeeds, List.singleton_append, List.countP_cons]
      rfl

/-- **Every move** makes the entries of an answer or of an end, or none. -/
theorem act_entries {f : Fleet σ} (hserved : f.WellServed) (q : Queue σ) (m : Move) :
    Entries f (f.act q m) := by
  have hmoves := act_moves q f m
  generalize f.act q m = g at hmoves
  cases hmoves with
  | clock | requested | unserved | unadvanced => exact .rests rfl rfl
  | @scheduled d r answer w h =>
    have hbooks := books_served (Phase.leaves_of_steps h) f.requests [.scheduled r answer]
      fun _ hd => ⟨_, _, List.mem_singleton.1 hd⟩
    obtain hsame | ⟨job, hnew, hfresh, hjobs⟩ := schedule_jobs h
    · exact .rests hsame hbooks
    · exact .inserts hnew hfresh hjobs hbooks
  | @served n r p w hn h =>
    have hbooks := books_served h.leaves (f.requests.set n ⟨r.request, p⟩)
      (requestDeeds r.request r.phase p) fun _ hd => ⟨_, mem_requestDeeds hd⟩
    obtain hsame | ⟨job, -, hnew, hfresh, hjobs⟩ := h.jobs (hserved _ (List.mem_of_getElem? hn))
    · exact .rests hsame hbooks
    · exact .inserts hnew hfresh hjobs hbooks
  | @claimed job w hbest hw =>
    have hlogs : w.tables.logs = f.world.tables.logs := by
      rw [hw.tables]
      rfl
    -- the attempt that begins is neither answered nor settled
    refine .claims f.world.now (Tables.mem_of_best? hbest).1 (Tables.isClaimable_of_best? hbest)
      (Tables.rewrites_withClaim hw.tables)
      (Books.ext hlogs hw.events rfl ?_ (funext fun id => ?_) rfl)
    · simp [books, answered, AttemptStage.isAnswered]
    · simp [books, settled, AttemptStage.isOutstanding]
  | unclaimed _ hw =>
    refine .rests (congrArg _ hw.tables) ?_
    simp only [books, hw.tables, hw.events]
    rfl
  | @advanced n answer h stage w hn hstep =>
    exact advanced_entries hn hstep.enters

end Fleet

end SyncQueue
