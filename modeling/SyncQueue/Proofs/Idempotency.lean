import SyncQueue.Proofs.Moves

/-!
# Idempotent scheduling

A call that carries an idempotency key is answered with the job that carries the key, if there is
one; else with an active job for its window, which need not carry the key; else with a new job that
does. So a key is remembered from the call on that creates its job, and not before.

* `Fleet.idempotent_scheduling`: for calls that come one at a time, what the answers to all calls
  with one key have in common.
* `Fleet.key_not_remembered`: a run in which two calls with the same key get different jobs,
  because the first one was answered with the active job of its window.
-/

namespace SyncQueue

open Time (Instant)
open Relation (ReflTransGen)

variable {σ : Type}

/-! ## Keys -/

namespace Tables

/-- Every key that a job carries is carried by the same job later. -/
def KeysGrow (t t' : Tables) : Prop :=
  ∀ key id, (t.jobByKey? key).map (·.id) = some id → (t'.jobByKey? key).map (·.id) = some id

variable {t t' t'' : Tables}

theorem KeysGrow.of_keys (h : t'.keys = t.keys) : t.KeysGrow t' := fun key id hid => by
  rwa [jobByKey?_map_id, h, ← jobByKey?_map_id]

theorem KeysGrow.trans (h : t.KeysGrow t') (h' : t'.KeysGrow t'') : t.KeysGrow t'' :=
  fun key id hid => h' key id (h key id hid)

theorem keysGrow_insertJob (t : Tables) (job : Job) : t.KeysGrow (t.insertJob job) :=
  fun key id hid => by
    obtain ⟨found, hfound, rfl⟩ := Option.map_eq_some_iff.1 hid
    rw [jobByKey?_insertJob, hfound, Option.some_or, Option.map_some]

theorem jobByKey?_eq_none_of_keys (h : t'.keys = t.keys) {key : String}
    (hnone : t.jobByKey? key = none) : t'.jobByKey? key = none := by
  have hmap := jobByKey?_map_id t' key
  rw [h, ← jobByKey?_map_id, hnone] at hmap
  simpa using hmap

end Tables

/-! ## Answers -/

/-- A call and its answer. -/
abbrev Call := ScheduleRequest × ScheduledJob

namespace Call

/-- The call was answered with an active job for its window, which does not carry the key. -/
def IsByWindow (key : String) (c : Call) : Prop :=
  c.2.created = false ∧ c.2.job.idempotencyKey ≠ some key ∧
    Tables.coversWindow c.1.key c.1.windowStart c.1.windowEnd c.2.job

/-- A later call with a key gets the job of an earlier one, unless that one was answered by its
window alone. -/
def Repeats (key : String) (later earlier : Call) : Prop :=
  (later.2.created = false ∧ later.2.job.id = earlier.2.job.id) ∨ earlier.IsByWindow key

end Call

/-- How a call with a key is answered, and what the tables are then. -/
inductive Answers (key : String) (r : ScheduleRequest) (t t' : Tables) : ScheduledJob → Prop where
  | byKey {job : Job} (h : t.jobByKey? key = some job) (ht : t' = t) :
      Answers key r t t' ⟨job, false⟩
  | byWindow {job : Job} (hnone : t.jobByKey? key = none) (hmem : job ∈ t.jobs)
      (h : Tables.coversWindow r.key r.windowStart r.windowEnd job) (ht : t' = t) :
      Answers key r t t' ⟨job, false⟩
  | byInsert {job : Job} (hnone : t.jobByKey? key = none) (hkey : job.idempotencyKey = some key)
      (ht : t' = t.insertJob job) : Answers key r t t' ⟨job, true⟩

/-- What the tables remember of the calls with a key that have been answered, newest first. -/
structure Remembers (key : String) (t : Tables) (calls : List Call) : Prop where
  repeats : calls.Pairwise (Call.Repeats key)
  /-- Every call was answered with the job that carries the key, or by its window. -/
  kept : ∀ c ∈ calls,
    (t.jobByKey? key).map (·.id) = some c.2.job.id ∨ c.IsByWindow key

namespace Remembers

variable {key : String} {t t' : Tables} {calls : List Call} {r : ScheduleRequest}
  {s : ScheduledJob}

theorem mono (h : Remembers key t calls) (ht : t.KeysGrow t') : Remembers key t' calls :=
  ⟨h.repeats, fun c hc => (h.kept c hc).imp (ht key _) id⟩

/-- While no job carries the key, all calls were answered by their windows. -/
theorem isByWindow (h : Remembers key t calls) (hnone : t.jobByKey? key = none) :
    ∀ c ∈ calls, c.IsByWindow key := fun c hc =>
  (h.kept c hc).resolve_left fun hsome => by
    rw [hnone] at hsome
    cases hsome

/-- **One more answer**, given in one of the three ways. -/
theorem answer (h : Remembers key t calls) (hanswer : Answers key r t t' s) :
    Remembers key t' ((r, s) :: calls) := by
  cases hanswer with
  | @byKey job hjob ht =>
    subst ht
    refine ⟨List.pairwise_cons.2 ⟨fun c hc => ?_, h.repeats⟩, List.forall_mem_cons.2 ⟨?_, h.kept⟩⟩
    · refine (h.kept c hc).imp (fun hid => ⟨rfl, ?_⟩) id
      rw [hjob] at hid
      exact Option.some.inj hid
    · rw [hjob]
      exact .inl rfl
  | @byWindow job hnone hmem hcovers ht =>
    subst ht
    have hall := h.isByWindow hnone
    refine ⟨List.pairwise_cons.2 ⟨fun c hc => .inr (hall c hc), h.repeats⟩,
      List.forall_mem_cons.2 ⟨.inr ⟨rfl, ?_, hcovers⟩, h.kept⟩⟩
    exact fun hkey => Tables.jobByKey?_ne_none hmem hkey hnone
  | @byInsert job hnone hkey ht =>
    subst ht
    have hall := h.isByWindow hnone
    refine ⟨List.pairwise_cons.2 ⟨fun c hc => .inr (hall c hc), h.repeats⟩,
      List.forall_mem_cons.2 ⟨.inl ?_, fun c hc => .inr (hall c hc)⟩⟩
    rw [Tables.jobByKey?_insertJob, hnone, if_pos hkey]
    rfl

/-- At most one of the calls created a job. -/
theorem created_length (h : Remembers key t calls) :
    (calls.filter (·.2.created)).length ≤ 1 := by
  have hpairwise := h.repeats.filter (·.2.created)
  have hcreated : ∀ c ∈ calls.filter (·.2.created), c.2.created = true :=
    fun c hc => (List.mem_filter.1 hc).2
  cases hlist : calls.filter (·.2.created) with
  | nil => exact Nat.zero_le 1
  | cons later rest =>
    cases rest with
    | nil => exact Nat.le_refl 1
    | cons earlier rest =>
      rw [hlist] at hpairwise hcreated
      obtain ⟨hfalse, -⟩ | ⟨hfalse, -⟩ :=
        (List.pairwise_cons.1 hpairwise).1 earlier List.mem_cons_self
      · rw [hcreated later List.mem_cons_self] at hfalse
        cases hfalse
      · rw [hcreated earlier (List.mem_cons_of_mem _ List.mem_cons_self)] at hfalse
        cases hfalse

end Remembers

/-! ## Requests -/

namespace Phase

/-- The request has not been answered. -/
def isOpen (p : Phase) : Bool := p.answer?.isNone

/-- Once a request has looked up its key in vain, no job carries the key. -/
def Fits (r : ScheduleRequest) (t : Tables) : Phase → Prop
  | window _ | insert _ | winner _ => ∀ key, r.idempotencyKey = some key → t.jobByKey? key = none
  | _ => True

theorem start_fits (d : Int) (r : ScheduleRequest) (t : Tables) : (start d r).Fits r t := by
  apply start_elim
  · intro e _
    trivial
  · intro n _
    trivial
  · intro n _ hnone key hkey
    rw [hnone] at hkey
    cases hkey

theorem fits_of_not_isOpen {p : Phase} (hp : p.isOpen = false) (r : ScheduleRequest) (t : Tables) :
    p.Fits r t := by
  cases p with
  | key | done => trivial
  | window | insert | winner => cases hp

theorem Fits.of_keys {p : Phase} {r : ScheduleRequest} {t t' : Tables} (hp : p.Fits r t)
    (h : t'.keys = t.keys) : p.Fits r t' := by
  cases p with
  | key | done => trivial
  | window | insert | winner =>
    exact fun key hkey => Tables.jobByKey?_eq_none_of_keys h (hp key hkey)

end Phase

namespace Phase.Steps

variable {q : Queue σ} {r : ScheduleRequest} {p p' : Phase} {w w' : World σ}

theorem keysGrow (h : Steps q r (p, w) (p', w')) : w.tables.KeysGrow w'.tables := by
  cases h with
  | known _ hw | unknown _ hw | active _ hw | vacant _ hw | duplicate _ hw | won _ hw
  | refused _ _ hw =>
    rw [hw.tables]
    exact .of_keys rfl
  | created _ hw =>
    rw [hw.tables]
    exact Tables.keysGrow_insertJob _ _
  | answered => exact .of_keys rfl

/-- A request that goes on has changed nothing. -/
theorem tables_of_isOpen (h : Steps q r (p, w) (p', w')) (hp' : p'.isOpen) :
    w'.tables = w.tables := by
  cases h with
  | known _ hw | unknown _ hw | active _ hw | vacant _ hw | duplicate _ hw | won _ hw
  | refused _ _ hw =>
    exact hw.tables
  | created => cases hp'
  | answered => rfl

/-- A request that has been answered stays so and changes nothing. -/
theorem eq_of_not_isOpen (h : Steps q r (p, w) (p', w')) (hp : p.isOpen = false) :
    p' = p ∧ w' = w := by
  cases h with
  | known | unknown | active | vacant | duplicate | won | created => cases hp
  | @refused p _ _ _ hopen =>
    rw [isOpen, hopen] at hp
    cases hp
  | answered => exact ⟨rfl, rfl⟩

theorem fits (h : Steps q r (p, w) (p', w')) (hp : p.Fits r w.tables) : p'.Fits r w'.tables := by
  cases h with
  | known | active | created | won | refused | answered => trivial
  | unknown h hw =>
    intro key hkey
    rw [hw.tables]
    simpa [hkey] using h
  | vacant _ hw | duplicate _ hw =>
    intro key hkey
    rw [hw.tables]
    exact hp key hkey

/-- The answer to a request that carries a key. -/
theorem answers (h : Steps q r (p, w) (p', w')) (hp : p.Fits r w.tables) (hopen : p.isOpen)
    {s : ScheduledJob} (hanswer : p'.answer? = some (.ok s)) {key : String}
    (hkey : r.idempotencyKey = some key) : Answers key r w.tables w'.tables s := by
  cases h with
  | known h hw =>
    cases hanswer
    exact .byKey (by simpa [hkey] using h) hw.tables
  | active h hw =>
    cases hanswer
    obtain ⟨hmem, hcovers⟩ := List.mem_filter.1 (Tables.mem_of_first? h)
    exact .byWindow (hp key hkey) hmem hcovers hw.tables
  | created h hw =>
    cases hanswer
    exact .byInsert (hp key hkey) hkey hw.tables
  | won h =>
    -- the insert was refused, yet no job carries the key
    rw [hkey, Option.getD_some, hp key hkey] at h
    cases h
  | unknown | vacant | duplicate | refused => cases hanswer
  | answered => cases hopen

end Phase.Steps

namespace Phase

theorem start_answer? {d : Int} {r : ScheduleRequest} {s : ScheduledJob} :
    (start d r).answer? ≠ some (.ok s) := by
  apply start_elim (C := fun p => p.answer? ≠ some (.ok s)) <;> simp [answer?]

/-- What the statements of an open request keep, a row of steps keeps. -/
theorem open_induction {q : Queue σ} {r : ScheduleRequest} {P : Phase → World σ → Prop}
    (hstep : ∀ p w p' w', Steps q r (p, w) (p', w') → p.isOpen → P p w → P p' w')
    {s s' : Phase × World σ} (h : ReflTransGen (Steps q r) s s') (hs : P s.1 s.2) :
    P s'.1 s'.2 := by
  refine steps_induction (P := P) (fun p w p' w' hnext hp => ?_) h hs
  cases hopen : p.isOpen with
  | true => exact hstep p w p' w' hnext hopen hp
  | false =>
    obtain ⟨rfl, rfl⟩ := hnext.eq_of_not_isOpen hopen
    exact hp

/-- A request that is served without a break is answered in one of the three ways. -/
theorem schedule_answers {q : Queue σ} {r : ScheduleRequest} {d : Int} {p : Phase}
    {w w' : World σ} (h : ReflTransGen (Steps q r) (start d r, w) (p, w')) :
    w.tables.KeysGrow w'.tables ∧ ∀ s, p.answer? = some (.ok s) →
      ∀ key, r.idempotencyKey = some key → Answers key r w.tables w'.tables s := by
  -- as long as the request is open the tables are those at the beginning
  have hrun := open_induction (P := fun p w' => p.Fits r w'.tables ∧
      w.tables.KeysGrow w'.tables ∧ (p.isOpen → w'.tables = w.tables) ∧
      ∀ s, p.answer? = some (.ok s) →
        ∀ key, r.idempotencyKey = some key → Answers key r w.tables w'.tables s)
    (fun p₁ w₁ p₂ w₂ hstep hopen hfirst => ?_) h
    ⟨start_fits d r w.tables, .of_keys rfl, fun _ => rfl,
      fun s hanswer => absurd hanswer start_answer?⟩
  · exact ⟨hrun.2.1, hrun.2.2.2⟩
  · obtain ⟨hfits, hgrow, htables, -⟩ := hfirst
    refine ⟨hstep.fits hfits, hgrow.trans hstep.keysGrow, fun hopen₂ => ?_,
      fun s hanswer key hkey => ?_⟩
    · exact (hstep.tables_of_isOpen hopen₂).trans (htables hopen)
    · rw [← htables hopen]
      exact hstep.answers hfits hopen hanswer hkey

end Phase

/-! ## Calls in turn -/

/-- The call with a key that was answered with a job, if the deed is one. -/
def Deed.call? (key : String) : Deed → Option Call
  | .scheduled r (.ok s) => if r.idempotencyKey = some key then some (r, s) else none
  | _ => none

/-- A call comes in with the move. -/
def Move.isCall : Move → Bool
  | .schedule .. | .request .. => true
  | _ => false

theorem Remembers.scheduled {key : String} {t t' : Tables} {history : List Deed}
    {r : ScheduleRequest} {answer : Except QueueError ScheduledJob}
    (h : Remembers key t (history.filterMap (Deed.call? key))) (hgrow : t.KeysGrow t')
    (hanswer : ∀ s, answer = .ok s → r.idempotencyKey = some key → Answers key r t t' s) :
    Remembers key t' ((Deed.scheduled r answer :: history).filterMap (Deed.call? key)) := by
  cases answer with
  | error e => exact h.mono hgrow
  | ok s =>
    by_cases hkey : r.idempotencyKey = some key
    · simpa [Deed.call?, hkey] using h.answer (hanswer s rfl hkey)
    · simpa [Deed.call?, hkey] using h.mono hgrow

namespace Fleet

/-- Calls come one at a time: a call waits until all earlier ones have been answered. -/
def Rule.inTurn : Rule σ := fun f _ m => m.isCall → ∀ r ∈ f.requests, r.phase.isOpen = false

/-- The calls with a key that have been answered with a job, newest first. -/
def callsWith (f : Fleet σ) (key : String) : List Call := f.history.filterMap (Deed.call? key)

/-- The fleet serves one request at a time, and its tables remember the keys. -/
structure InTurn (f : Fleet σ) : Prop where
  alone : ∀ (i j : Nat) (r s : OpenRequest), f.requests[i]? = some r → f.requests[j]? = some s →
    r.phase.isOpen → s.phase.isOpen → i = j
  fits : ∀ r ∈ f.requests, r.phase.Fits r.request f.world.tables
  remembers : ∀ key, Remembers key f.world.tables (f.callsWith key)

namespace InTurn

variable {f g : Fleet σ}

theorem initial (now : Instant) (surroundings : σ) : (Fleet.initial now surroundings).InTurn where
  alone i _ _ _ hi := by simp [Fleet.initial] at hi
  fits _ hr := by cases hr
  remembers _ := ⟨.nil, fun _ hc => by cases hc⟩

/-- Claims and attempts change neither the keys nor the requests. -/
theorem of_keys (h : f.InTurn) (hrequests : g.requests = f.requests)
    (hkeys : g.world.tables.keys = f.world.tables.keys)
    (hcalls : ∀ key, g.callsWith key = f.callsWith key) : g.InTurn where
  alone := hrequests ▸ h.alone
  fits r hr := (h.fits r (hrequests ▸ hr)).of_keys hkeys
  remembers key := hcalls key ▸ (h.remembers key).mono (.of_keys hkeys)

theorem callsWith_attemptDeeds (job : Job) (stage stage' : AttemptStage) (key : String)
    (history : List Deed) :
    (attemptDeeds job stage stage' ++ history).filterMap (Deed.call? key) =
      history.filterMap (Deed.call? key) := by
  rw [List.filterMap_append]
  unfold attemptDeeds
  split <;> rfl

theorem requestDeeds_of_not_isOpen {p : Phase} (hp : p.isOpen = false) (r : ScheduleRequest)
    (p' : Phase) : requestDeeds r p p' = [] := by
  cases p with
  | done => rfl
  | key | window | insert | winner => cases hp

theorem requestDeeds_of_isOpen {p : Phase} (hp : p.isOpen) (r : ScheduleRequest) (p' : Phase) :
    requestDeeds r p p' = (p'.answer?.map (.scheduled r)).toList := by
  unfold requestDeeds
  rw [Option.isNone_iff_eq_none.1 hp]
  cases p'.answer? <;> rfl

/-- **A statement of the open request** may answer it. -/
theorem of_served (h : f.InTurn) {q : Queue σ} {n : Nat} {r : OpenRequest} {p : Phase}
    {w : World σ} (hn : f.requests[n]? = some r)
    (hstep : Phase.Steps q r.request (r.phase, f.world) (p, w)) :
    InTurn
      { world := w
        requests := f.requests.set n ⟨r.request, p⟩
        held := f.held
        history := requestDeeds r.request r.phase p ++ f.history } := by
  have hset : ∀ i s, (f.requests.set n ⟨r.request, p⟩)[i]? = some s →
      (i = n ∧ s = ⟨r.request, p⟩) ∨ (i ≠ n ∧ f.requests[i]? = some s) :=
    fun _ _ hi => getElem?_set_cases hi
  cases hopen : r.phase.isOpen with
  | false =>
    -- a request that has been answered is left alone
    obtain ⟨rfl, rfl⟩ := hstep.eq_of_not_isOpen hopen
    have hsame : ∀ i s, (f.requests.set n ⟨r.request, r.phase⟩)[i]? = some s →
        f.requests[i]? = some s := fun i s hi => by
      obtain ⟨rfl, rfl⟩ | ⟨-, hold⟩ := hset i s hi
      · exact hn
      · exact hold
    refine ⟨fun i j s s' hi hj => h.alone i j s s' (hsame i s hi) (hsame j s' hj),
      fun s hs => ?_, fun key => ?_⟩
    · obtain ⟨i, hi⟩ := List.mem_iff_getElem?.1 hs
      exact h.fits s (List.mem_of_getElem? (hsame i s hi))
    · rw [callsWith, requestDeeds_of_not_isOpen hopen]
      exact h.remembers key
  | true =>
    have hfits := h.fits r (List.mem_of_getElem? hn)
    refine ⟨fun i j s s' hi hj hs hs' => ?_, fun s hs => ?_, fun key => ?_⟩
    · obtain ⟨rfl, rfl⟩ | ⟨hne, hi'⟩ := hset i s hi <;>
        obtain ⟨rfl, rfl⟩ | ⟨hne', hj'⟩ := hset j s' hj
      · rfl
      · exact h.alone _ j r s' hn hj' hopen hs'
      · exact h.alone i _ s r hi' hn hs hopen
      · exact h.alone i j s s' hi' hj' hs hs'
    · obtain ⟨i, hi⟩ := List.mem_iff_getElem?.1 hs
      obtain ⟨rfl, rfl⟩ | ⟨hne, hi'⟩ := hset i s hi
      · exact hstep.fits hfits
      · refine Phase.fits_of_not_isOpen (Bool.eq_false_iff.2 fun hopen' => hne ?_) _ _
        exact h.alone i n s r hi' hn hopen' hopen
    · rw [callsWith, requestDeeds_of_isOpen hopen]
      cases hanswer : p.answer? with
      | none => exact (h.remembers key).mono hstep.keysGrow
      | some answer =>
        exact (h.remembers key).scheduled hstep.keysGrow fun s hs hkey =>
          hstep.answers hfits hopen (hs ▸ hanswer) hkey

theorem act (h : f.InTurn) {q : Queue σ} {m : Move} (hrule : Rule.inTurn f q m) :
    (f.act q m).InTurn := by
  have hmoves := act_moves q f m
  generalize f.act q m = g at hmoves
  cases hmoves with
  | clock | unserved | unadvanced => exact h.of_keys rfl rfl fun _ => rfl
  | unclaimed _ hw => exact h.of_keys rfl (congrArg _ hw.tables) fun _ => rfl
  | scheduled hrun =>
    have hclosed := hrule rfl
    obtain ⟨hgrow, hanswers⟩ := Phase.schedule_answers hrun
    refine ⟨h.alone, fun r hr => Phase.fits_of_not_isOpen (hclosed r hr) _ _, fun key => ?_⟩
    exact (h.remembers key).scheduled hgrow fun s hs hkey => hanswers s (congrArg some hs) key hkey
  | @requested d r =>
    have hclosed := hrule rfl
    have hopen : ∀ i s, (f.requests ++ [⟨r, .start d r⟩])[i]? = some s → s.phase.isOpen →
        i = f.requests.length := fun i s hi hs => by
      rw [List.getElem?_append] at hi
      split at hi
      · rw [hclosed s (List.mem_of_getElem? hi)] at hs
        cases hs
      · rw [List.getElem?_singleton] at hi
        split at hi
        · omega
        · cases hi
    refine ⟨fun i j s s' hi hj hs hs' => (hopen i s hi hs).trans (hopen j s' hj hs').symm,
      fun s hs => ?_, h.remembers⟩
    obtain hs | hs := List.mem_append.1 hs
    · exact h.fits s hs
    · obtain rfl := List.mem_singleton.1 hs
      exact Phase.start_fits _ _ _
  | served hn hstep => exact h.of_served hn hstep
  | @claimed job w _ hw =>
    have hwrite := Tables.rewrites_withClaim hw.tables
    exact h.of_keys rfl (hwrite.keys fun _ => rfl) fun _ => rfl
  | advanced _ hstep =>
    refine h.of_keys rfl ?_ fun key => callsWith_attemptDeeds _ _ _ key _
    obtain ⟨-, hjobs⟩ | ⟨-, -, write, hsettles, hwrite⟩ := hstep.row
    · exact Tables.keys_congr hjobs
    · exact hwrite.keys hsettles.idempotencyKey_eq

end InTurn

variable {f : Fleet σ}

theorem Arises.inTurn (h : f.Arises .inTurn) : f.InTurn :=
  h.induction InTurn.initial fun _ _ _ hrule hf => hf.act hrule

/-- **Idempotent scheduling.** Of two calls with the same key that are answered with a job, the
later one gets the job of the earlier one and creates none, unless the earlier one was answered
with an active job of its window that does not carry the key; and at most one call with a key
creates a job. -/
theorem idempotent_scheduling (h : f.Arises .inTurn) (key : String) :
    (f.callsWith key).Pairwise (Call.Repeats key) ∧
      ((f.callsWith key).filter (·.2.created)).length ≤ 1 :=
  ⟨(h.inTurn.remembers key).repeats, (h.inTurn.remembers key).created_length⟩

/-! ## A key that is not remembered -/

theorem requests_act {q : Queue σ} {m : Move} (hf : f.requests = [])
    (hm : ∀ d r, m ≠ .request d r) : (f.act q m).requests = [] := by
  have hmoves := act_moves q f m
  generalize f.act q m = g at hmoves
  cases hmoves with
  | clock | scheduled | unserved | claimed | unclaimed | advanced | unadvanced => exact hf
  | requested => exact absurd rfl (hm _ _)
  | served hn => simp [hf] at hn

/-- Calls that are served without a break come one at a time. -/
theorem leads_inTurn (q : Queue σ) {moves : List Move} (hf : f.requests = [])
    (hmoves : ∀ m ∈ moves, ∀ d r, m ≠ .request d r) : f.Leads .inTurn (f.run q moves) := by
  induction moves generalizing f with
  | nil => exact .refl
  | cons m moves ih =>
    refine .head ⟨q, m, fun _ r hr => ?_, rfl⟩
      (ih (requests_act hf (hmoves m List.mem_cons_self)) fun m' hm' =>
        hmoves m' (List.mem_cons_of_mem _ hm'))
    rw [hf] at hr
    cases hr

/-- A call with a key is answered with the active job of its window; when that is completed, a
second one creates a job, and a third one gets it. -/
def forgetful : Fleet Unit :=
  plain
    [.schedule 3 (.plain none), .schedule 3 (.plain (some "daily")), .claim,
      .advance 0 (.result noopResult), .advance 0 (.result noopResult),
      .advance 0 (.result noopResult), .schedule 3 (.plain (some "daily")),
      .schedule 3 (.plain (some "daily"))]

theorem forgetful_arises : forgetful.Arises .inTurn :=
  ⟨⟨0⟩, (), leads_inTurn .plain rfl (by simp)⟩

/-- Two calls with the same key may get different jobs. -/
theorem key_not_remembered :
    ¬ ∀ f : Fleet Unit, f.Arises .inTurn → ∀ key,
      ((f.callsWith key).Pairwise fun later earlier => later.2.job.id = earlier.2.job.id) ∧
        ((f.callsWith key).filter (·.2.created)).length ≤ 1 := fun h =>
  absurd (h forgetful forgetful_arises "daily").1 (by decide +kernel)

/-- Of the three calls the two later ones get the same job. -/
theorem idempotent_scheduling_forgetful :
    (forgetful.callsWith "daily").length = 3 ∧
      (forgetful.callsWith "daily").Pairwise (Call.Repeats "daily") ∧
      ((forgetful.callsWith "daily").filter (·.2.created)).length ≤ 1 :=
  ⟨by decide +kernel, idempotent_scheduling forgetful_arises "daily"⟩

end Fleet

end SyncQueue
