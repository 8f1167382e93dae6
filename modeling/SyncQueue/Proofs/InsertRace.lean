import SyncQueue.Proofs.Custody
import SyncQueue.Proofs.Idempotency

/-!
# Racing inserts

Several requests with one idempotency key may all find the key unknown before any of them inserts
its job. The store accepts one of the jobs and refuses the others as duplicates; a request whose job
was refused then reads the job that was there first. This holds of every interleaving: the job that
made the insert a duplicate carries the key, and no job ever loses its key or its row.

* `Tables.Grows`: a call that creates a job adds it under a new key and a new identifier, and no
  other move does.
* `Phase.OnCourse`: a request whose insert was refused has a job to read.
* `Fleet.insert_race_resolved`: the outcome of the race, for all runs with fresh identifiers.
-/

namespace SyncQueue

open Time (Instant)
open Relation (ReflTransGen)

variable {σ : Type}

/-! ## Keys and identifiers -/

namespace Tables

/-- The idempotency keys that jobs carry. -/
def idempotencyKeys (t : Tables) : List String := t.jobs.filterMap (·.idempotencyKey)

/-- What the tables become when a call creates a job, or none: a created job has a key and an
identifier that no other job has. -/
inductive Grows (t t' : Tables) : Option Job → Prop where
  | same (h : t'.keys = t.keys) : Grows t t' none
  | insert {job : Job} (h : t.conflict? job = none) (ht : t'.keys = (t.insertJob job).keys) :
      Grows t t' (some job)

variable {t t' : Tables} {created : Option Job}

theorem idempotencyKeys_eq (t : Tables) : t.idempotencyKeys = t.keys.filterMap (·.2) := by
  rw [idempotencyKeys, keys, List.filterMap_map]
  rfl

theorem ids_eq (t : Tables) : t.jobs.map (·.id) = t.keys.map (·.1) := by
  rw [keys, List.map_map]
  rfl

theorem jobByKey?_eq_none {key : String} :
    t.jobByKey? key = none ↔ key ∉ t.idempotencyKeys := by
  simp [jobByKey?, idempotencyKeys]

theorem idempotencyKey_of_jobByKey? {key : String} {job : Job}
    (h : t.jobByKey? key = some job) : job.idempotencyKey = some key := by
  simpa using List.find?_some h

/-- A job that can be added leaves the keys all different. -/
theorem nodup_idempotencyKeys_insertJob (ht : t.idempotencyKeys.Nodup) {job : Job}
    (h : t.conflict? job = none) : (t.insertJob job).idempotencyKeys.Nodup := by
  cases hkey : job.idempotencyKey with
  | none => simpa [idempotencyKeys, insertJob, hkey] using ht
  | some key =>
    have hnew := jobByKey?_eq_none.1 ((conflict?_eq_none h).1 key hkey)
    have hapart := ht.concat hnew
    simpa [idempotencyKeys, insertJob, hkey] using hapart

theorem Grows.nodup_idempotencyKeys (h : t.Grows t' created) (ht : t.idempotencyKeys.Nodup) :
    t'.idempotencyKeys.Nodup := by
  cases h with
  | same hkeys => rwa [idempotencyKeys_eq, hkeys, ← idempotencyKeys_eq]
  | insert hconflict hkeys =>
    rw [idempotencyKeys_eq, hkeys, ← idempotencyKeys_eq]
    exact nodup_idempotencyKeys_insertJob ht hconflict

theorem Grows.ids (h : t.Grows t' created) :
    t'.jobs.map (·.id) = t.jobs.map (·.id) ++ (created.map (·.id)).toList := by
  cases h with
  | same hkeys => simp only [ids_eq, hkeys, Option.map_none, Option.toList_none, List.append_nil]
  | insert _ hkeys =>
    rw [ids_eq, hkeys, ← ids_eq]
    simp [insertJob]

theorem Grows.keysGrow (h : t.Grows t' created) : t.KeysGrow t' := by
  cases h with
  | same hkeys => exact .of_keys hkeys
  | insert _ hkeys => exact (keysGrow_insertJob t _).trans (.of_keys hkeys)

/-- A key that a job carries stays known. -/
theorem KeysGrow.jobByKey?_ne_none (h : t.KeysGrow t') {key : String}
    (hkey : t.jobByKey? key ≠ none) : t'.jobByKey? key ≠ none := by
  intro hnone
  obtain ⟨job, hjob⟩ := Option.ne_none_iff_exists'.1 hkey
  have hlater := h key job.id (by rw [hjob, Option.map_some])
  rw [hnone] at hlater
  cases hlater

end Tables

/-! ## Answers -/

/-- The answer to a call. -/
abbrev CallAnswer := Except QueueError ScheduledJob

namespace CallAnswer

/-- The job that was created for the call. -/
def created? : CallAnswer → Option Job
  | .ok ⟨job, true⟩ => some job
  | _ => none

/-- The call was answered with a job, or it is invalid. -/
def IsFair (r : ScheduleRequest) : CallAnswer → Prop
  | .ok _ => True
  | .error e => ∃ d, r.validate d = .error e

end CallAnswer

/-- The identifier of the job that was created for a call. -/
def Deed.created? : Deed → Option Uuid
  | .scheduled _ answer => (CallAnswer.created? answer).map (·.id)
  | _ => none

namespace Phase

/-- The job that has been created for the request. -/
def created? (p : Phase) : Option Job := p.answer?.bind CallAnswer.created?

/-- A request whose insert was refused has a job to read, and one that was answered has been given a
job if it is valid. -/
def OnCourse (r : ScheduleRequest) (t : Tables) : Phase → Prop
  | winner _ => ∃ key, r.idempotencyKey = some key ∧ t.jobByKey? key ≠ none
  | done answer => CallAnswer.IsFair r answer
  | _ => True

/-- The request was answered with the job that carries its key, and created none. -/
def IsWon (r : ScheduleRequest) (t : Tables) (p : Phase) : Prop :=
  ∃ key job, r.idempotencyKey = some key ∧ p = .done (.ok ⟨job, false⟩) ∧
    job.idempotencyKey = some key ∧ (t.jobByKey? key).map (·.id) = some job.id

variable {p p' : Phase} {r : ScheduleRequest} {t t' : Tables}

theorem OnCourse.mono (hp : p.OnCourse r t) (h : t.KeysGrow t') : p.OnCourse r t' := by
  cases p with
  | winner cause =>
    obtain ⟨key, hkey, hfound⟩ := hp
    exact ⟨key, hkey, h.jobByKey?_ne_none hfound⟩
  | key | window | insert | done => exact hp

theorem IsWon.mono (hp : p.IsWon r t) (h : t.KeysGrow t') : p.IsWon r t' := by
  obtain ⟨key, job, hkey, hanswer, hjob, hfound⟩ := hp
  exact ⟨key, job, hkey, hanswer, hjob, h key job.id hfound⟩

theorem start_onCourse (d : Int) : (start d r).OnCourse r t := by
  apply start_elim
  · intro e hinvalid
    exact ⟨d, hinvalid⟩
  · intro n _
    trivial
  · intro n _ _
    trivial

theorem start_created? (d : Int) : (start d r).created? = none := by
  apply start_elim (C := fun p => p.created? = none) <;> intros <;> rfl

end Phase

/-! ## Statements -/

namespace Phase.Steps

variable {q : Queue σ} {r : ScheduleRequest} {p p' : Phase} {w w' : World σ}

/-- **A statement of an open request** adds the job that it answers as created, or none. -/
theorem grows (h : Steps q r (p, w) (p', w')) (hp : p.isOpen) :
    w.tables.Grows w'.tables p'.created? := by
  cases h with
  | known _ hw | unknown _ hw | active _ hw | vacant _ hw | duplicate _ hw | won _ hw
  | refused _ _ hw =>
    exact .same (Tables.keys_congr (congrArg _ hw.tables))
  | created hnone hw => exact .insert hnone (Tables.keys_congr (congrArg _ hw.tables))
  | answered => cases hp

/-- While a request is open, the identifier that it will use stays fresh. -/
theorem canCreate (h : Steps q r (p, w) (p', w')) (hp' : p'.isOpen) (hq : q.CanCreate w) :
    q.CanCreate w' := by
  cases h with
  | unknown _ hw | vacant _ hw | duplicate _ hw =>
    refine ⟨hq.1, ?_⟩
    rw [hw.tables, hw.named]
    exact hq.2
  | known | active | created | won | refused => cases hp'
  | answered => exact hq

/-- **A statement of a request** keeps it on course if identifiers are fresh and nothing is refused:
the only insert that is refused is one under a key that a job carries already. -/
theorem onCourse (h : Steps q r (p, w) (p', w')) (hq : q.CanCreate w)
    (hp : p.OnCourse r w.tables) : p'.OnCourse r w'.tables := by
  cases h with
  | known | unknown | active | vacant | created | won => trivial
  | @duplicate n _ _ cause hcause hw =>
    have hconflict := hcause.resolve_left hq.1
    rw [hw.tables]
    cases hkey : r.idempotencyKey with
    | none =>
      have hnone : (q.newJob r n w).idempotencyKey = none := hkey
      have hid : w.tables.job? (q.newJob r n w).id = none := hq.2
      simp [Tables.conflict?, hnone, hid] at hconflict
    | some key =>
      refine ⟨key, hkey, fun hnone => ?_⟩
      have hsome : (q.newJob r n w).idempotencyKey = some key := hkey
      have hid : w.tables.job? (q.newJob r n w).id = none := hq.2
      simp [Tables.conflict?, hsome, hid, hnone] at hconflict
  | refused _ hcause =>
    obtain ⟨⟨cause, rfl⟩, hnone⟩ := hcause.resolve_left hq.1
    obtain ⟨key, hkey, hfound⟩ := hp
    rw [hkey, Option.getD_some] at hnone
    exact absurd hnone hfound
  | answered => exact hp

/-- A request whose insert was refused gets the job that carries its key. -/
theorem isWon {cause : StoreError} (h : Steps q r (.winner cause, w) (p', w'))
    (hq : ¬q.IsFallible) (hp : (winner cause).OnCourse r w.tables) : p'.IsWon r w'.tables := by
  obtain ⟨key, hkey, hfound⟩ := hp
  cases h with
  | won hjob hw =>
    rw [hkey, Option.getD_some] at hjob
    refine ⟨key, _, hkey, rfl, Tables.idempotencyKey_of_jobByKey? hjob, ?_⟩
    rw [hw.tables, hjob, Option.map_some]
  | refused _ hcause =>
    obtain ⟨-, hnone⟩ := hcause.resolve_left hq
    rw [hkey, Option.getD_some] at hnone
    exact absurd hnone hfound

/-- A refused insert. -/
theorem eq_winner {n : Int} {cause : StoreError} (h : Steps q r (.insert n, w) (p', w'))
    (hq : ¬q.IsFallible) (hconflict : w.tables.conflict? (q.newJob r n w) = some cause) :
    p' = .winner cause := by
  cases h with
  | created hnone =>
    rw [hconflict] at hnone
    cases hnone
  | duplicate hcause =>
    have hsame := hcause.resolve_left hq
    rw [hconflict] at hsame
    rw [Option.some.inj hsame]
  | refused _ hcause =>
    obtain ⟨⟨_, hphase⟩, -⟩ := hcause.resolve_left hq
    cases hphase

end Phase.Steps

namespace Phase

/-- Serving a request without a break adds the job that it answers as created, or none. -/
theorem schedule_grows {q : Queue σ} {r : ScheduleRequest} {d : Int} {w w' : World σ} {p : Phase}
    (h : ReflTransGen (Steps q r) (start d r, w) (p, w')) :
    w.tables.Grows w'.tables p.created? := by
  have hrun := open_induction (P := fun p w' =>
      (p.isOpen → w'.tables = w.tables) ∧ w.tables.Grows w'.tables p.created?)
    (fun p₁ w₁ p₂ w₂ hstep hopen hfirst => ?_) h
    ⟨fun _ => rfl, (start_created? d).symm ▸ .same rfl⟩
  · exact hrun.2
  · have htables := hfirst.1 hopen
    refine ⟨fun hopen₂ => (hstep.tables_of_isOpen hopen₂).trans htables, ?_⟩
    rw [← htables]
    exact hstep.grows hopen

/-- Serving a request without a break keeps it on course. -/
theorem schedule_onCourse {q : Queue σ} {r : ScheduleRequest} {d : Int} {w w' : World σ}
    {p : Phase} (h : ReflTransGen (Steps q r) (start d r, w) (p, w')) (hq : q.CanCreate w) :
    p.OnCourse r w'.tables := by
  have hrun := open_induction
    (P := fun p w' => (p.isOpen → q.CanCreate w') ∧ p.OnCourse r w'.tables)
    (fun p₁ w₁ p₂ w₂ hstep hopen hfirst => ?_) h ⟨fun _ => hq, start_onCourse d⟩
  · exact hrun.2
  · have hcan := hfirst.1 hopen
    exact ⟨fun hopen₂ => hstep.canCreate hopen₂ hcan, hstep.onCourse hcan hfirst.2⟩

end Phase

/-! ## Runs -/

/-- The move sends statements of a request. -/
def Move.isService : Move → Bool
  | .schedule .. | .serve _ => true
  | _ => false

namespace Fleet

/-- Identifiers are fresh, and the store refuses no statement of a request. -/
def Rule.fresh : Rule σ := fun f q m => m.isService → q.CanCreate f.world

/-- The jobs that calls were answered with as created, newest first. -/
def createdIds (f : Fleet σ) : List Uuid := f.history.filterMap Deed.created?

theorem createdIds_requestDeeds {p : Phase} (hp : p.isOpen) (r : ScheduleRequest) (p' : Phase) :
    (requestDeeds r p p').filterMap Deed.created? = (p'.created?.map (·.id)).toList := by
  rw [InTurn.requestDeeds_of_isOpen hp, Phase.created?]
  cases p'.answer? with
  | none => rfl
  | some answer =>
    cases hcreated : CallAnswer.created? answer <;> simp [Deed.created?, hcreated]

theorem createdIds_attemptDeeds (job : Job) (stage stage' : AttemptStage) :
    (attemptDeeds job stage stage').filterMap Deed.created? = [] := by
  unfold attemptDeeds
  split <;> rfl

/-- **Every move** adds the job of the call that it answers as created, or none. -/
theorem act_grows (q : Queue σ) (f : Fleet σ) (m : Move) :
    ∃ created : Option Job, f.world.tables.Grows (f.act q m).world.tables created ∧
      (f.act q m).createdIds = (created.map (·.id)).toList ++ f.createdIds := by
  have hmoves := act_moves q f m
  generalize f.act q m = g at hmoves
  cases hmoves with
  | clock | requested | unserved | unadvanced => exact ⟨none, .same rfl, rfl⟩
  | unclaimed _ hw => exact ⟨none, .same (Tables.keys_congr (congrArg _ hw.tables)), rfl⟩
  | @scheduled d r answer w hrun =>
    refine ⟨CallAnswer.created? answer, Phase.schedule_grows hrun, ?_⟩
    cases hcreated : CallAnswer.created? answer <;> simp [createdIds, Deed.created?, hcreated]
  | @served n r p w hn hstep =>
    cases hopen : r.phase.isOpen with
    | true =>
      refine ⟨p.created?, hstep.grows hopen, ?_⟩
      rw [createdIds, List.filterMap_append, createdIds_requestDeeds hopen, createdIds]
    | false =>
      obtain ⟨rfl, rfl⟩ := hstep.eq_of_not_isOpen hopen
      refine ⟨none, .same rfl, ?_⟩
      rw [createdIds, InTurn.requestDeeds_of_not_isOpen hopen]
      rfl
  | @claimed job w _ hw =>
    have hwrite := Tables.rewrites_withClaim hw.tables
    exact ⟨none, .same (hwrite.keys fun _ => rfl), rfl⟩
  | @advanced n answer held stage w _ hstep =>
    refine ⟨none, .same ?_, ?_⟩
    · rcases hstep.row with ⟨-, hjobs⟩ | ⟨-, -, write, hsettles, hwrite⟩
      · exact Tables.keys_congr hjobs
      · exact hwrite.keys hsettles.idempotencyKey_eq
    · rw [createdIds, List.filterMap_append, createdIds_attemptDeeds]
      rfl

theorem act_keysGrow (q : Queue σ) (f : Fleet σ) (m : Move) :
    f.world.tables.KeysGrow (f.act q m).world.tables := by
  obtain ⟨_, hgrows, -⟩ := act_grows q f m
  exact hgrows.keysGrow

/-- What a move does to a request: it sends its next statement, or leaves it as it is. -/
theorem act_request (q : Queue σ) (m : Move) {f : Fleet σ} {n : Nat} {r : OpenRequest}
    (hn : f.requests[n]? = some r) :
    (m ≠ .serve n ∧ (f.act q m).requests[n]? = some r) ∨
      ∃ p, m = .serve n ∧ Phase.Steps q r.request (r.phase, f.world) (p, (f.act q m).world) ∧
        (f.act q m).requests[n]? = some ⟨r.request, p⟩ := by
  have hmoves := act_moves q f m
  generalize f.act q m = g at hmoves
  cases hmoves with
  | clock | scheduled | claimed | unclaimed | advanced | unadvanced =>
    exact .inl ⟨Move.noConfusion, hn⟩
  | requested =>
    refine .inl ⟨Move.noConfusion, ?_⟩
    rw [List.getElem?_append_left (List.getElem?_eq_some_iff.1 hn).1, hn]
  | @unserved i hi =>
    refine .inl ⟨?_, hn⟩
    rintro ⟨⟩
    rw [hn] at hi
    cases hi
  | @served i s p w hi hstep =>
    by_cases heq : i = n
    · subst heq
      obtain rfl := Option.some.inj (hn.symm.trans hi)
      refine .inr ⟨p, rfl, hstep, ?_⟩
      exact List.getElem?_set_self (List.getElem?_eq_some_iff.1 hn).1
    · refine .inl ⟨fun h => heq (Move.serve.inj h), ?_⟩
      exact (List.getElem?_set_ne heq).trans hn

/-- Keys are apart, and all rows are those that calls were answered with as created. -/
structure Accounted (f : Fleet σ) : Prop where
  apart : f.world.tables.idempotencyKeys.Nodup
  created : f.createdIds.reverse = f.world.tables.jobs.map (·.id)

theorem Accounted.initial (now : Instant) (surroundings : σ) :
    (Fleet.initial now surroundings).Accounted where
  apart := .nil
  created := rfl

theorem Accounted.act {f : Fleet σ} (h : f.Accounted) (q : Queue σ) (m : Move) :
    (f.act q m).Accounted := by
  obtain ⟨created, hgrows, hids⟩ := act_grows q f m
  refine ⟨hgrows.nodup_idempotencyKeys h.apart, ?_⟩
  rw [hids, hgrows.ids, List.reverse_append, h.created]
  cases created <;> rfl

/-- Every request is on course, and every call was answered with a job, if it was valid. -/
structure OnCourse (f : Fleet σ) : Prop where
  served : ∀ r ∈ f.requests, r.phase.OnCourse r.request f.world.tables
  answered : ∀ r answer, .scheduled r answer ∈ f.history → CallAnswer.IsFair r answer

/-- A step of a request that answers a call is the last one of that call. -/
theorem answer_of_mem_requestDeeds {r s : ScheduleRequest} {p p' : Phase} {answer : CallAnswer}
    (h : .scheduled s answer ∈ requestDeeds r p p') : s = r ∧ p' = .done answer := by
  cases p' with
  | done a =>
    unfold requestDeeds at h
    split at h
    · rename_i _ hanswer
      cases hanswer
      cases List.mem_singleton.1 h
      exact ⟨rfl, rfl⟩
    · cases h
  | key | window | insert | winner =>
    unfold requestDeeds at h
    split at h
    · rename_i _ hanswer
      cases hanswer
    · cases h

theorem not_mem_attemptDeeds {r : ScheduleRequest} {answer : CallAnswer} {job : Job}
    {stage stage' : AttemptStage} : .scheduled r answer ∉ attemptDeeds job stage stage' := by
  unfold attemptDeeds
  split <;> simp

namespace OnCourse

variable {f : Fleet σ} {q : Queue σ} {m : Move}

theorem initial (now : Instant) (surroundings : σ) :
    (Fleet.initial now surroundings).OnCourse where
  served _ hr := by cases hr
  answered _ _ ha := by cases ha

/-- **Every move** keeps the requests on course. -/
theorem act (h : f.OnCourse) (hrule : Rule.fresh f q m) : (f.act q m).OnCourse := by
  have hgrow := act_keysGrow q f m
  have hmoves := act_moves q f m
  generalize f.act q m = g at hgrow hmoves
  have hkept : ∀ r ∈ f.requests, r.phase.OnCourse r.request g.world.tables :=
    fun r hr => (h.served r hr).mono hgrow
  cases hmoves with
  | clock | unserved | unclaimed | unadvanced => exact ⟨hkept, h.answered⟩
  | @scheduled d r answer w hrun =>
    refine ⟨hkept, ?_⟩
    intro s a ha
    rcases List.mem_cons.1 ha with ha | ha
    · cases ha
      exact Phase.schedule_onCourse hrun (hrule rfl)
    · exact h.answered s a ha
  | @requested d r =>
    refine ⟨?_, h.answered⟩
    intro s hs
    rcases List.mem_append.1 hs with hs | hs
    · exact hkept s hs
    · obtain rfl := List.mem_singleton.1 hs
      exact Phase.start_onCourse d
  | @served n r p w hn hstep =>
    have hp := hstep.onCourse (hrule rfl) (h.served r (List.mem_of_getElem? hn))
    refine ⟨?_, ?_⟩
    · intro s hs
      rcases List.mem_or_eq_of_mem_set hs with hs | rfl
      · exact hkept s hs
      · exact hp
    · intro s a ha
      rcases List.mem_append.1 ha with ha | ha
      · obtain ⟨rfl, rfl⟩ := answer_of_mem_requestDeeds ha
        exact hp
      · exact h.answered s a ha
  | claimed =>
    refine ⟨hkept, ?_⟩
    intro s a ha
    rcases List.mem_cons.1 ha with ha | ha
    · cases ha
    · exact h.answered s a ha
  | @advanced n answer held stage w _ hstep =>
    refine ⟨hkept, ?_⟩
    intro s a ha
    rcases List.mem_append.1 ha with ha | ha
    · exact absurd ha not_mem_attemptDeeds
    · exact h.answered s a ha

end OnCourse

variable {rule : Rule σ} {f g : Fleet σ} {n : Nat} {r : ScheduleRequest}

theorem Arises.accounted (h : f.Arises rule) : f.Accounted :=
  h.induction Accounted.initial fun _ q m _ hf => hf.act q m

theorem Arises.onCourse (h : f.Arises .fresh) : f.OnCourse :=
  h.induction OnCourse.initial fun _ _ _ hrule hf => hf.act hrule

/-! ## The request that came second -/

/-- The insert of a request was refused: the request either has yet to read the job that was there
first, or was answered with it. -/
def HasLost (f : Fleet σ) (n : Nat) (r : ScheduleRequest) : Prop :=
  ∃ p, f.requests[n]? = some ⟨r, p⟩ ∧ ((∃ cause, p = .winner cause) ∨ p.IsWon r f.world.tables)

/-- The request was answered with the job that carries its key, and created none. -/
def GetsWinner (f : Fleet σ) (n : Nat) (r : ScheduleRequest) : Prop :=
  ∃ p, f.requests[n]? = some ⟨r, p⟩ ∧ p.IsWon r f.world.tables

theorem GetsWinner.hasLost (h : f.GetsWinner n r) : f.HasLost n r := by
  obtain ⟨p, hn, hp⟩ := h
  exact ⟨p, hn, .inr hp⟩

/-- **The next statement** of a request that came second gives it the job that was there first. -/
theorem HasLost.serve (h : f.HasLost n r) (hf : f.OnCourse) {q : Queue σ}
    (hrule : Rule.fresh f q (.serve n)) : (f.act q (.serve n)).GetsWinner n r := by
  obtain ⟨p, hn, hp⟩ := h
  rcases act_request q (.serve n) hn with ⟨hne, -⟩ | ⟨p', -, hstep, hn'⟩
  · exact absurd rfl hne
  · refine ⟨p', hn', ?_⟩
    rcases hp with ⟨cause, rfl⟩ | hp
    · exact hstep.isWon (hrule rfl).1 (hf.served _ (List.mem_of_getElem? hn))
    · -- a request that has been answered is left alone
      have hclosed : p.isOpen = false := by
        obtain ⟨key, job, -, rfl, -, -⟩ := hp
        rfl
      obtain ⟨rfl, hsame⟩ := hstep.eq_of_not_isOpen hclosed
      rw [hsame]
      exact hp

/-- **Every move** leaves a request that came second on its way. -/
theorem HasLost.act (h : f.HasLost n r) (hf : f.OnCourse) {q : Queue σ} {m : Move}
    (hrule : Rule.fresh f q m) : (f.act q m).HasLost n r := by
  obtain ⟨p, hn, hp⟩ := id h
  rcases act_request q m hn with ⟨-, hn'⟩ | ⟨p', rfl, -, -⟩
  · exact ⟨p, hn', hp.imp_right fun hwon => hwon.mono (act_keysGrow q f m)⟩
  · exact (h.serve hf hrule).hasLost

theorem HasLost.leads (h : f.HasLost n r) (hf : f.OnCourse) (hrun : f.Leads .fresh g) :
    g.HasLost n r ∧ g.OnCourse :=
  hrun.induction (P := fun g => g.HasLost n r ∧ g.OnCourse)
    (fun _ _ _ hrule hg => ⟨hg.1.act hg.2 hrule, hg.2.act hrule⟩) ⟨h, hf⟩

/-- A request whose insert is refused as a duplicate has come second. -/
theorem hasLost_of_conflict {q : Queue σ} (hrule : Rule.fresh f q (.serve n)) {m : Int}
    (hn : f.requests[n]? = some ⟨r, .insert m⟩) {cause : StoreError}
    (hconflict : f.world.tables.conflict? (q.newJob r m f.world) = some cause) :
    (f.act q (.serve n)).HasLost n r := by
  rcases act_request q (.serve n) hn with ⟨hne, -⟩ | ⟨p, -, hstep, hn'⟩
  · exact absurd rfl hne
  · exact ⟨p, hn', .inl ⟨cause, hstep.eq_winner (hrule rfl).1 hconflict⟩⟩

/-- **The race for a key is resolved.** With fresh identifiers and no other refusal by the store,
in every fleet: no key is carried by two jobs; every job was given to exactly one call as created;
every call that was answered was given a job, unless it is invalid; and a request whose insert is
refused as a duplicate stays on its way through every later run, where its next statement gives it
the job that carries its key, not created for it. -/
theorem insert_race_resolved (h : f.Arises .fresh) :
    f.world.tables.idempotencyKeys.Nodup ∧
      (∀ job ∈ f.world.tables.jobs, f.createdIds.count job.id = 1) ∧
      (∀ r answer, .scheduled r answer ∈ f.history → CallAnswer.IsFair r answer) ∧
      ∀ (q : Queue σ) (n : Nat) (r : ScheduleRequest) (m : Int) (cause : StoreError),
        Rule.fresh f q (.serve n) → f.requests[n]? = some ⟨r, .insert m⟩ →
        f.world.tables.conflict? (q.newJob r m f.world) = some cause →
        ∀ g, Leads .fresh (f.act q (.serve n)) g →
          g.HasLost n r ∧
            ∀ q', Rule.fresh g q' (.serve n) → (g.act q' (.serve n)).GetsWinner n r := by
  have haccounted := h.accounted
  refine ⟨haccounted.apart, ?_, h.onCourse.answered, ?_⟩
  · intro job hjob
    have hids := h.inCustody.ids
    rw [← haccounted.created] at hids
    have hmem : job.id ∈ f.createdIds := by
      rw [← List.mem_reverse, haccounted.created]
      exact List.mem_map_of_mem hjob
    exact List.count_eq_one_of_mem (List.nodup_reverse.1 hids) hmem
  · intro q n r m cause hrule hn hconflict g hrun
    have hlost := hasLost_of_conflict hrule hn hconflict
    obtain ⟨hlater, hcourse⟩ := hlost.leads (h.onCourse.act hrule) hrun
    exact ⟨hlater, fun q' hrule' => hlater.serve hcourse hrule'⟩

/-! ## A race -/

instance (f : Fleet Unit) (m : Move) : Decidable (Rule.fresh f .plain m) :=
  decidable_of_iff
    (m.isService → f.world.tables.job? (Queue.plain.jobId f.world.named) = none)
    ⟨fun h hm => ⟨Queue.not_isFallible_plain, h hm⟩, fun h hm => (h hm).2⟩

/-- A request with the same key for a longer window. -/
def longerRequest : ScheduleRequest :=
  { ScheduleRequest.plain (some "daily") with windowEnd := ⟨2⟩ }

/-- Two requests with one key find it unknown; one of them inserts its job, which is claimed and
executed before the other one goes on. -/
def raceMoves : List Move :=
  [.request 3 (.plain (some "daily")), .request 3 longerRequest, .serve 0, .serve 1, .serve 0,
    .serve 1, .serve 0, .claim, .advance 0 (.result noopResult), .advance 0 (.result noopResult),
    .advance 0 (.result noopResult)]

theorem raced_arises : (plain raceMoves).Arises .fresh :=
  ⟨⟨0⟩, (), .follows (by decide +kernel)⟩

/-- The insert of the other one is refused, and it gets the job that was there first. -/
theorem insert_race_resolved_raced :
    (∀ job ∈ (plain raceMoves).world.tables.jobs, (plain raceMoves).createdIds.count job.id = 1) ∧
      (((plain raceMoves).act .plain (.serve 1)).act .plain (.serve 1)).GetsWinner 1
        longerRequest := by
  obtain ⟨-, hcreated, -, hlost⟩ := insert_race_resolved raced_arises
  have hrefused := hlost .plain 1 longerRequest 3 _ (by decide +kernel) rfl rfl _ .refl
  exact ⟨hcreated, hrefused.2 .plain (by decide +kernel)⟩

end Fleet

end SyncQueue
