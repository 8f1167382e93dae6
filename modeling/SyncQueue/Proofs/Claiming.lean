import SyncQueue.Proofs.ClaimOrder

/-!
# Claiming the best job

The store looks for the next job with one query: over the two claimable states, over the pauses of
all keys, by texts of instants, in a mixed order. For years of four digits it finds what the rows
say: a job is eligible if it is claimable, due, and no row of its own key is paused, and the job
that is found comes first among the eligible ones. The claim writes that row and no other one, or,
if the store refuses any of its statements, nothing.

* `Tables.isEligible_iff`: the condition of the query, said through the rows.
* `Tables.goesBefore_of_best?`: the job that is found comes first.
* `Queue.Sends`: a computation fails with the error of the first of its statements that is refused.
* `Queue.claim_sends`: the statements of a claim.
* `Queue.claims_best`: what a claim answers and leaves.
-/

namespace SyncQueue

open Time (Instant)

variable {σ : Type} {now : Instant}

/-! ## The query -/

theorem JobStatus.isClaimable_iff {status : JobStatus} :
    status.isClaimable ↔ status = .pending ∨ status = .retrying := by
  cases status <;> decide

namespace Tables

variable {t : Tables} {job : Job}

/-- The job may be claimed: it waits, it is due, and its key is not paused. -/
structure MayClaim (t : Tables) (now : Instant) (job : Job) : Prop where
  waiting : job.status = .pending ∨ job.status = .retrying
  due : job.nextRunAt ≤ now
  unpaused : ∀ stat ∈ t.stats, stat.key = job.key → stat.isPaused now = false

theorem isPausedAt_eq_false_iff (hnow : now.hasFourDigitYear) (hdated : t.PausesDated)
    {key : SyncKey} :
    t.isPausedAt key now = false ↔
      ∀ stat ∈ t.stats, stat.key = key → stat.isPaused now = false := by
  rw [isPausedAt, List.any_eq_false]
  refine forall₂_congr fun stat hstat => ?_
  rw [FailureStat.any_storedLt hnow (hdated stat hstat)]
  simp

/-- **The query** finds the jobs that may be claimed. -/
theorem isEligible_iff (hnow : now.hasFourDigitYear) (hdated : t.PausesDated)
    (hdue : job.nextRunAt.hasFourDigitYear) :
    t.isEligible now job ↔ t.MayClaim now job := by
  rw [isEligible, Instant.storedLe_of_fourDigits hdue hnow]
  simp only [Bool.and_eq_true, Bool.not_eq_true', decide_eq_true_eq,
    JobStatus.isClaimable_iff, isPausedAt_eq_false_iff hnow hdated]
  constructor
  · rintro ⟨⟨hwaiting, hdue⟩, hfree⟩
    exact ⟨hwaiting, hdue, hfree⟩
  · rintro ⟨hwaiting, hdue, hfree⟩
    exact ⟨⟨hwaiting, hdue⟩, hfree⟩

/-! ## The order -/

/-- The row that is found comes before all others, in an order whose strict part is looked at. -/
theorem le_of_first? {α : Type} {le before : α → α → Bool} {rows : List α} {a : α}
    (htrans : ∀ a b c, le a b → le b c → le a c) (htotal : ∀ a b, (le a b || le b a) = true)
    (hbefore : ∀ b ∈ rows, ∀ c ∈ rows, before b c = !le c b) (h : first? before rows = some a) :
    ∀ b ∈ rows, le a b := by
  induction rows generalizing a with
  | nil => simp
  | cons c rows ih =>
    have hrefl : le c c := by simpa using htotal c c
    simp only [first?] at h
    cases hrest : first? before rows with
    | none =>
      obtain rfl : c = a := by simpa [hrest] using h
      rw [first?_eq_none.1 hrest]
      simpa using hrefl
    | some d =>
      have hd : ∀ b ∈ rows, le d b := ih (fun b hb e he =>
        hbefore b (List.mem_cons_of_mem _ hb) e (List.mem_cons_of_mem _ he)) hrest
      have hstrict : before d c = !le c d :=
        hbefore d (List.mem_cons_of_mem _ (mem_of_first? hrest)) c List.mem_cons_self
      rw [hrest] at h
      cases hle : le c d with
      | true =>
        obtain rfl : c = a := by simpa [hstrict, hle] using h
        exact List.forall_mem_cons.2 ⟨hrefl, fun b hb => htrans _ _ _ hle (hd b hb)⟩
      | false =>
        obtain rfl : d = a := by simpa [hstrict, hle] using h
        exact List.forall_mem_cons.2 ⟨by simpa [hle] using htotal d c, hd⟩

/-- What the store sorts by is the strict part of the order. -/
theorem claimedBefore_eq {a b : Job} (ha : a.nextRunAt.hasFourDigitYear)
    (hb : b.nextRunAt.hasFourDigitYear) : claimedBefore a b = !b.goesBefore a := by
  have hlt : a.nextRunAt < b.nextRunAt ↔ a.nextRunAt.rank < b.nextRunAt.rank := Iff.rfl
  rw [Bool.eq_iff_iff, Bool.not_eq_true', ← Bool.not_eq_true, Job.goesBefore_iff]
  simp only [claimedBefore, Instant.storedLt_of_fourDigits ha hb, Bool.or_eq_true,
    Bool.and_eq_true, decide_eq_true_eq, hlt]
  omega

/-- **The job that is found** comes before all other eligible jobs. -/
theorem goesBefore_of_best? (hdue : ∀ job ∈ t.jobs, job.nextRunAt.hasFourDigitYear)
    (hbest : t.best? now = some job) {other : Job} (hother : other ∈ t.jobs)
    (heligible : t.isEligible now other) : job.goesBefore other := by
  refine le_of_first? Job.goesBefore_trans Job.goesBefore_total (fun b hb c hc => ?_) hbest other
    (List.mem_filter.2 ⟨hother, heligible⟩)
  exact claimedBefore_eq (hdue b (List.mem_filter.1 hb).1) (hdue c (List.mem_filter.1 hc).1)

end Tables

/-! ## The statements -/

/-- A statement that is sent: the operation that it belongs to, and the world at that moment. -/
structure Sending (σ : Type) where
  operation : String
  world : World σ
  statement : Statement

namespace Queue

variable {α β : Type} {q : Queue σ} {w w₁ w₂ : World σ}

/-- The error of the first statement that the store refuses. -/
def firstRefusal? (q : Queue σ) (sendings : List (Sending σ)) : Option QueueError :=
  sendings.findSome? fun s => (q.faults s.world s.statement).map (.database s.operation)

theorem firstRefusal?_cons (q : Queue σ) (s : Sending σ) (l : List (Sending σ)) :
    q.firstRefusal? (s :: l) =
      ((q.faults s.world s.statement).map (.database s.operation)).or (q.firstRefusal? l) := by
  rw [firstRefusal?, List.findSome?_cons]
  cases q.faults s.world s.statement <;> rfl

/-- A computation sends the statements one after the other. It fails with the error of the first one
that is refused; if none is, it gives the value and leaves the world. -/
def Sends (q : Queue σ) (x : QueueM σ α) (w : World σ) (sendings : List (Sending σ)) (a : α)
    (w' : World σ) : Prop :=
  match q.firstRefusal? sendings with
  | some e => ∃ w'', x w = .error e w''
  | none => x w = .ok a w'

namespace Sends

variable {x : QueueM σ α} {f : α → QueueM σ β} {a : α} {b : β} {s : Sending σ}
  {l : List (Sending σ)}

theorem error (h : q.Sends x w l a w₁) {e : QueueError} (he : q.firstRefusal? l = some e) :
    ∃ w', x w = .error e w' := by
  simpa only [Sends, he] using h

theorem ok (h : q.Sends x w l a w₁) (hl : q.firstRefusal? l = none) : x w = .ok a w₁ := by
  simpa only [Sends, hl] using h

/-- One statement. -/
theorem one {operation : String} {y : StoreM σ α} {sent : World σ} {statement : Statement}
    (hy : y w =
      match q.faults sent statement with
      | some e => .error e sent
      | none => .ok a w₁) :
    q.Sends (within operation y) w [⟨operation, sent, statement⟩] a w₁ := by
  unfold Sends
  rw [firstRefusal?_cons]
  unfold within
  rw [hy]
  cases q.faults sent statement with
  | some e => exact ⟨_, rfl⟩
  | none => rfl

/-- A computation after one that sends nothing. -/
theorem after_silent (hx : x w = .ok a w₁) (h : q.Sends (f a) w₁ l b w₂) :
    q.Sends (x >>= f) w l b w₂ := by
  unfold Sends at h ⊢
  rwa [bind_apply, hx]

/-- A computation before one that sends nothing. -/
theorem before_silent (h : q.Sends x w l a w₁) (hf : f a w₁ = .ok b w₂) :
    q.Sends (x >>= f) w l b w₂ := by
  unfold Sends
  rw [bind_apply]
  cases hl : q.firstRefusal? l with
  | some e =>
    obtain ⟨w', hx⟩ := h.error hl
    exact ⟨w', by rw [hx]⟩
  | none => rw [h.ok hl, ← hf]

/-- A computation after one statement. -/
theorem bind (h : q.Sends x w [s] a w₁) (hf : q.Sends (f a) w₁ l b w₂) :
    q.Sends (x >>= f) w (s :: l) b w₂ := by
  have hone : q.firstRefusal? [s] = (q.faults s.world s.statement).map (.database s.operation) := by
    rw [firstRefusal?_cons]
    exact Option.or_none
  unfold Sends at hf ⊢
  rw [firstRefusal?_cons, bind_apply, ← hone]
  cases hs : q.firstRefusal? [s] with
  | some e =>
    obtain ⟨w', hx⟩ := h.error hs
    exact ⟨w', by rw [hx]⟩
  | none =>
    rw [h.ok hs]
    exact hf

theorem read (q : Queue σ) (operation : String) (tables : List Table) (look : Tables → α)
    (w : World σ) :
    q.Sends (within operation (q.read tables look)) w
      [⟨operation, { w with issued := w.issued + 1 },
        ⟨.read, tables, false, w.transaction.isSome⟩⟩]
      (look w.tables) { w with issued := w.issued + 1 } := by
  refine one ?_
  simp only [Queue.read, bind_apply, send, get_apply, pure_apply]
  cases q.faults _ _ <;> rfl

/-- A change of a row that is there. -/
theorem updateJob (q : Queue σ) (operation : String) {id : Uuid} (change : Job → Job)
    {w : World σ} (hrow : (w.tables.job? id).isSome) :
    q.Sends (within operation (q.updateJob id change)) w
      [⟨operation, { w with issued := w.issued + 1 },
        ⟨.update, [.jobs], true, w.transaction.isSome⟩⟩] ()
      { w with
        issued := w.issued + 1
        tables := w.tables.modifyJob id change
        transaction := w.transaction.map (· || true) } := by
  refine one ?_
  simp only [Queue.updateJob, Queue.write, bind_apply, get_apply, send, hrow, modify_apply, if_true,
    pure_apply]
  cases q.faults _ _ <;> rfl

theorem commit (q : Queue σ) (operation : String) (w : World σ) :
    q.Sends (q.commit operation) w
      [⟨operation, { w with issued := w.issued + 1 },
        ⟨.commit, [], w.transaction.getD false, w.transaction.isSome⟩⟩] ()
      { w with issued := w.issued + 1 } :=
  after_silent (get_apply w) (one rfl)

/-- In a transaction the statements of the body come after its begin. -/
theorem transaction {opening : String} {body : QueueM σ α}
    (h : q.Sends body { w with issued := w.issued + 1, transaction := some false } l a w₁) :
    q.Sends (q.transaction opening body) w
      (⟨opening, { w with issued := w.issued + 1 },
        ⟨.begin, [], false, w.transaction.isSome⟩⟩ :: l) a { w₁ with transaction := none } := by
  unfold Sends
  rw [firstRefusal?_cons]
  simp only [Queue.transaction, within, send]
  cases q.faults { w with issued := w.issued + 1 }
      ⟨.begin, [], false, w.transaction.isSome⟩ with
  | some e => exact ⟨_, rfl⟩
  | none =>
    cases hl : q.firstRefusal? l with
    | some e =>
      obtain ⟨w', hbody⟩ := h.error hl
      exact ⟨{ w' with transaction := none, tables := w.tables }, by simp only [hbody]⟩
    | none =>
      have hbody := h.ok hl
      simp only [Option.map_none, Option.none_or, hbody]

end Sends

/-- The statements of a claim: an empty claim commits after the query, another one marks its job
first. -/
def claimSendings (w : World σ) : List (Sending σ) :=
  let sent (n : Nat) : World σ := { w with issued := w.issued + n, transaction := some false }
  ⟨"failed to begin claim transaction", { w with issued := w.issued + 1 },
    ⟨.begin, [], false, w.transaction.isSome⟩⟩ ::
  ⟨"failed to claim next job", sent 2, ⟨.read, [.jobs, .stats], false, true⟩⟩ ::
  match w.tables.best? w.now with
  | none => [⟨"failed to commit empty claim", sent 3, ⟨.commit, [], false, true⟩⟩]
  | some job =>
    [⟨"failed to mark job in progress", sent 3, ⟨.update, [.jobs], true, true⟩⟩,
      ⟨"failed to commit job claim",
        { sent 4 with tables := w.tables.withClaim job.id w.now, transaction := some true },
        ⟨.commit, [], true, true⟩⟩]

/-- **A claim** sends its statements one after the other. -/
theorem claim_sends (q : Queue σ) (w : World σ) :
    ∃ claimed w', q.Sends q.claim w (claimSendings w) claimed w' := by
  unfold claim claimSendings
  have hread := Sends.read q "failed to claim next job" [.jobs, .stats] (·.best? w.now)
    { w with issued := w.issued + 1, transaction := some false }
  cases hbest : w.tables.best? w.now with
  | none =>
    simp only [hbest] at hread
    have hcommit := Sends.commit q "failed to commit empty claim"
      { w with issued := w.issued + 2, transaction := some false }
    exact ⟨none, _, .after_silent (clock_apply w)
      (.before_silent (.transaction (.bind hread (.before_silent hcommit rfl))) rfl)⟩
  | some job =>
    simp only [hbest] at hread
    have hrow := Tables.isSome_job?_of_mem (Tables.mem_of_best? hbest).1
    have hupdate := Sends.updateJob
      (w := { w with issued := w.issued + 2, transaction := some false })
      q "failed to mark job in progress" (·.claimed w.now) hrow
    have hcommit := Sends.commit q "failed to commit job claim"
      { w with
        issued := w.issued + 3
        tables := w.tables.withClaim job.id w.now
        transaction := some true }
    exact ⟨some (job.claimed w.now), _, .after_silent (clock_apply w) (.before_silent
      (.transaction (.bind hread (.bind hupdate (.before_silent hcommit rfl)))) rfl)⟩

/-! ## Claims -/

/-- **A claim** of the best job, from any store and at any time of years of four digits.

1. If the store refuses a statement of the claim, the claim fails with the error of the first one,
   and the tables are as before.
2. Otherwise it answers. There is no answer exactly if no job may be claimed, and then the tables
   are as before. The answer is a job that may be claimed and that comes first: every other one that
   may be claimed has a lower priority, or the same one and is not due earlier. Its row is marked in
   its place, all other rows of all tables are as before, and the answer is that row. -/
theorem claims_best (q : Queue σ) (hids : (w.tables.jobs.map (·.id)).Nodup)
    (hnow : w.now.hasFourDigitYear)
    (hdue : ∀ job ∈ w.tables.jobs, job.nextRunAt.hasFourDigitYear)
    (hdated : w.tables.PausesDated) :
    (∀ e, q.firstRefusal? (claimSendings w) = some e →
      ∃ w', q.claim w = .error e w' ∧ w'.tables = w.tables) ∧
    (q.firstRefusal? (claimSendings w) = none →
      ∃ claimed w', q.claim w = .ok claimed w' ∧
        (claimed = none ↔ ∀ job ∈ w.tables.jobs, ¬w.tables.MayClaim w.now job) ∧
        (claimed = none → w'.tables = w.tables) ∧
        ∀ marked, claimed = some marked → ∃ job before after,
          w.tables.jobs = before ++ job :: after ∧
          w'.tables = { w.tables with jobs := before ++ marked :: after } ∧
          marked = { job with status := .inProgress, updatedAt := w.now } ∧
          w.tables.MayClaim w.now job ∧
          ∀ other ∈ w.tables.jobs, w.tables.MayClaim w.now other →
            other.priority < job.priority ∨
              other.priority = job.priority ∧ job.nextRunAt ≤ other.nextRunAt) := by
  have hmay : ∀ job ∈ w.tables.jobs,
      (w.tables.isEligible w.now job ↔ w.tables.MayClaim w.now job) :=
    fun job hjob => Tables.isEligible_iff hnow hdated (hdue job hjob)
  obtain ⟨claimed, w', hsends⟩ := q.claim_sends w
  refine ⟨fun e he => ?_, fun hnone => ?_⟩
  · obtain ⟨w'', hrun⟩ := hsends.error he
    exact ⟨w'', hrun, ((q.claim_meets w).error_of_eq hrun).1.tables⟩
  · have hrun := hsends.ok hnone
    refine ⟨claimed, w', hrun, ?_⟩
    obtain ⟨rfl, hbest, hstays⟩ | ⟨job, rfl, hbest, hwrites⟩ := (q.claim_meets w).ok_of_eq hrun
    · refine ⟨iff_of_true rfl fun job hjob hclaim => ?_, fun _ => hstays.tables, by simp⟩
      have hineligible := Tables.best?_eq_none.1 hbest job hjob
      rw [(hmay job hjob).2 hclaim] at hineligible
      cases hineligible
    · obtain ⟨hjob, heligible⟩ := Tables.mem_of_best? hbest
      have hclaim : w.tables.MayClaim w.now job := (hmay job hjob).1 heligible
      refine ⟨iff_of_false (by simp) fun hnobody => hnobody job hjob hclaim, by simp, ?_⟩
      rintro marked ⟨⟩
      obtain ⟨before, after, hbefore, hafter⟩ :=
        (Tables.rewrites_withClaim rfl).split (Tables.job?_of_mem hids hjob)
      refine ⟨job, before, after, hbefore, ?_, rfl, hclaim, fun other hother hmayOther => ?_⟩
      · rw [hwrites.tables, ← hafter]
        rfl
      · have hfirst := Tables.goesBefore_of_best? hdue hbest hother
          ((hmay other hother).2 hmayOther)
        exact (Job.goesBefore_iff.1 hfirst).imp id (And.imp_left Eq.symm)

/-- A job that waits from the start of time. -/
def contender (id connector : Nat) (priority : Int) (due : Instant) : Job :=
  { (ScheduleRequest.plain none).toJob ⟨id⟩ 3 ⟨0⟩ with
    key := ⟨⟨connector⟩, ⟨2⟩⟩
    priority
    nextRunAt := due }

/-- A world in which a pause runs, another one ends right now, and a job is due right now. -/
def contended : World Unit :=
  .initial ⟨5⟩
    { Tables.empty with
      jobs := [contender 1 1 9 ⟨0⟩, contender 2 2 4 ⟨0⟩, contender 3 2 7 ⟨5⟩, contender 4 2 8 ⟨6⟩]
      stats := [⟨⟨⟨1⟩, ⟨2⟩⟩, 1, some ⟨0⟩, some ⟨6⟩, ⟨0⟩, ⟨0⟩⟩,
        ⟨⟨⟨2⟩, ⟨2⟩⟩, 1, some ⟨0⟩, some ⟨5⟩, ⟨0⟩, ⟨0⟩⟩] } ()

/-- The job that is due right now is claimed: one before it in the order is paused, and another one
is not due yet. -/
theorem claims_best_contended :
    ∃ marked w', Queue.plain.claim contended = .ok (some marked) w' ∧ marked.id = ⟨3⟩ ∧
      marked.status = .inProgress ∧ w'.tables.stats = contended.tables.stats := by
  obtain ⟨claimed, w', hrun, hnone, -, hsome⟩ := (@claims_best Unit contended .plain (by decide)
    (by decide) (by decide) (by unfold Tables.PausesDated; decide)).2 rfl
  have hthird : contended.tables.MayClaim contended.now (contender 3 2 7 ⟨5⟩) :=
    ⟨.inl rfl, by decide, by decide⟩
  have hmem : contender 3 2 7 ⟨5⟩ ∈ contended.tables.jobs := by decide
  cases claimed with
  | none => exact absurd hthird (hnone.1 rfl _ hmem)
  | some marked =>
    obtain ⟨job, before, after, hjobs, htables, rfl, hmay, hfirst⟩ := hsome marked rfl
    have hjob : job ∈ contended.tables.jobs := by simp [hjobs]
    have hbefore := hfirst _ hmem hthird
    refine ⟨_, w', hrun, ?_, rfl, by rw [htables]⟩
    obtain rfl | rfl | rfl | rfl : job = contender 1 1 9 ⟨0⟩ ∨ job = contender 2 2 4 ⟨0⟩ ∨
        job = contender 3 2 7 ⟨5⟩ ∨ job = contender 4 2 8 ⟨6⟩ := by
      simpa [contended, World.initial] using hjob
    · exact absurd hmay.unpaused (by decide)
    · exact absurd hbefore (by decide)
    · rfl
    · exact absurd hmay.due (by decide)

end Queue

end SyncQueue
