import SyncQueue.Proofs.Custody
import SyncQueue.Proofs.Idempotency

/-!
# One active job for each window

A request that no idempotency key answers gets the active job for its key and window, and only where
there is none a job is added. Nothing in the store enforces this; it comes of a look before the
insert. It is enough, as long as calls come one at a time: claims and attempts change the state of
jobs, but none of them makes a job active that was not.

* `Tables.activeSlots`: the keys and windows that active jobs cover. Apart from inserts it only ever
  shrinks.
* `Fleet.HasSlots`: no slot is covered twice, and none that a request is about to cover is covered
  already.
* `Fleet.one_active_per_window`: the invariant, and what it means for later calls.
-/

namespace SyncQueue

open Time (Instant)
open Relation (ReflTransGen)

variable {σ : Type}

/-! ## Slots -/

theorem JobStatus.isActive_of_isClaimable {s : JobStatus} (h : s.isClaimable) : s.isActive := by
  cases s with
  | pending | retrying => rfl
  | inProgress | completed | failed => cases h

/-- A key and a window of time. -/
abbrev Slot := SyncKey × Instant × Instant

/-- The key and the window that a job covers. -/
def Job.slot (job : Job) : Slot := (job.key, job.windowStart, job.windowEnd)

/-- The key and the window that a request is for. -/
def ScheduleRequest.slot (r : ScheduleRequest) : Slot := (r.key, r.windowStart, r.windowEnd)

namespace Tables

/-- The slots that active jobs cover. -/
def activeSlots (t : Tables) : List Slot := (t.jobs.filter (·.status.isActive)).map Job.slot

variable {t t' : Tables}

theorem activeSlots_congr (h : t'.jobs = t.jobs) : t'.activeSlots = t.activeSlots := by
  rw [activeSlots, activeSlots, h]

theorem mem_activeSlots {slot : Slot} :
    slot ∈ t.activeSlots ↔ ∃ job ∈ t.jobs, job.status.isActive ∧ job.slot = slot := by
  simp only [activeSlots, List.mem_map, List.mem_filter, and_assoc]

theorem activeSlots_insertJob {job : Job} (h : job.status.isActive) :
    (t.insertJob job).activeSlots = t.activeSlots ++ [job.slot] := by
  simp [activeSlots, insertJob, h]

/-- Two active jobs with one slot are the same. -/
theorem eq_of_slot_eq (h : t.activeSlots.Nodup) {a b : Job} (ha : a ∈ t.jobs) (hb : b ∈ t.jobs)
    (ha' : a.status.isActive) (hb' : b.status.isActive) (hslot : a.slot = b.slot) : a = b :=
  List.inj_on_of_nodup_map h (List.mem_filter.2 ⟨ha, ha'⟩) (List.mem_filter.2 ⟨hb, hb'⟩) hslot

/-- A write that makes no job active covers no further slot. -/
theorem Rewrites.activeSlots {id : Uuid} {write : Job → Job} {row : Job}
    (h : t.Rewrites id write t') (hrow : t.job? id = some row) (hslot : (write row).slot = row.slot)
    (hactive : (write row).status.isActive → row.status.isActive) :
    t'.activeSlots.Sublist t.activeSlots := by
  obtain ⟨before, after, hbefore, hafter⟩ := h.split hrow
  rw [Tables.activeSlots, Tables.activeSlots, hbefore, hafter]
  simp only [List.filter_append, List.map_append]
  apply List.Sublist.append_left
  cases hwrite : (write row).status.isActive with
  | true => simp [hwrite, hactive hwrite, hslot]
  | false =>
    cases hrow' : row.status.isActive <;> simp [hwrite, hrow']

theorem coversWindow_iff {r : ScheduleRequest} {job : Job} :
    coversWindow r.key r.windowStart r.windowEnd job ↔
      job.status.isActive ∧ job.slot = r.slot := by
  simp only [coversWindow, Job.slot, ScheduleRequest.slot, Bool.and_eq_true, decide_eq_true_eq,
    Prod.mk.injEq]
  constructor
  · rintro ⟨⟨⟨hkey, hstart⟩, hend⟩, hactive⟩
    exact ⟨hactive, hkey, hstart, hend⟩
  · rintro ⟨hactive, hkey, hstart, hend⟩
    exact ⟨⟨⟨hkey, hstart⟩, hend⟩, hactive⟩

/-- No job is found for the window of a request exactly if its slot is free. -/
theorem activeInWindow?_eq_none {r : ScheduleRequest} :
    t.activeInWindow? r.key r.windowStart r.windowEnd = none ↔ r.slot ∉ t.activeSlots := by
  rw [activeInWindow?, first?_eq_none, List.filter_eq_nil_iff, mem_activeSlots]
  simp only [coversWindow_iff, not_exists, not_and]

/-- The active job for the window of a request is found. -/
theorem activeInWindow?_eq_some (h : t.activeSlots.Nodup) {r : ScheduleRequest} {job : Job}
    (hjob : job ∈ t.jobs) (hactive : job.status.isActive) (hslot : job.slot = r.slot) :
    t.activeInWindow? r.key r.windowStart r.windowEnd = some job := by
  cases hfound : t.activeInWindow? r.key r.windowStart r.windowEnd with
  | none =>
    have hmem : r.slot ∈ t.activeSlots := mem_activeSlots.2 ⟨job, hjob, hactive, hslot⟩
    exact absurd hmem (activeInWindow?_eq_none.1 hfound)
  | some found =>
    obtain ⟨hmem, hcovers⟩ := List.mem_filter.1 (mem_of_first? hfound)
    obtain ⟨hactive', hslot'⟩ := coversWindow_iff.1 hcovers
    rw [eq_of_slot_eq h hmem hjob hactive' hactive (hslot'.trans hslot.symm)]

end Tables

/-! ## Requests -/

/-- Between its look and its insert, the slot of a request is free. -/
def Phase.FindsFree (r : ScheduleRequest) (t : Tables) : Phase → Prop
  | insert _ => r.slot ∉ t.activeSlots
  | _ => True

namespace Phase

variable {p : Phase} {r : ScheduleRequest} {t t' : Tables}

theorem findsFree_of_not_isOpen (hp : p.isOpen = false) : p.FindsFree r t := by
  cases p with
  | insert => cases hp
  | key | window | winner | done => trivial

theorem FindsFree.mono (hp : p.FindsFree r t) (h : t'.activeSlots ⊆ t.activeSlots) :
    p.FindsFree r t' := by
  cases p with
  | insert => exact fun hmem => hp (h hmem)
  | key | window | winner | done => trivial

theorem start_findsFree (d : Int) : (start d r).FindsFree r t := by
  apply start_elim <;> intros <;> trivial

/-- **A statement of a request** keeps the slots apart: it inserts only what it found free. -/
theorem Steps.slots {q : Queue σ} {p' : Phase} {w w' : World σ}
    (h : Steps q r (p, w) (p', w')) (hp : p.FindsFree r w.tables)
    (hapart : w.tables.activeSlots.Nodup) :
    p'.FindsFree r w'.tables ∧ w'.tables.activeSlots.Nodup := by
  cases h with
  | known _ hw | unknown _ hw | active _ hw | duplicate _ hw | won _ hw | refused _ _ hw =>
    rw [hw.tables]
    exact ⟨trivial, hapart⟩
  | vacant hnone hw =>
    rw [hw.tables]
    exact ⟨Tables.activeInWindow?_eq_none.1 hnone, hapart⟩
  | created _ hw =>
    rw [hw.tables, Tables.activeSlots_insertJob rfl]
    have hnew := hapart.concat hp
    rw [List.concat_eq_append] at hnew
    exact ⟨trivial, hnew⟩
  | answered => exact ⟨trivial, hapart⟩

/-- A request that is served without a break keeps the slots apart. -/
theorem slots_of_steps {q : Queue σ} {d : Int} {w w' : World σ}
    (h : ReflTransGen (Steps q r) (start d r, w) (p, w')) (hapart : w.tables.activeSlots.Nodup) :
    w'.tables.activeSlots.Nodup :=
  (steps_induction (P := fun p w' => p.FindsFree r w'.tables ∧ w'.tables.activeSlots.Nodup)
    (fun _ _ _ _ hstep hfirst => hstep.slots hfirst.1 hfirst.2) h
    ⟨start_findsFree d, hapart⟩).2

end Phase

/-! ## Calls without a key -/

namespace Queue

/-- Serving a request gives a job that was there and changes nothing, unless the store refuses a
statement. -/
def Reuses (q : Queue σ) (d : Int) (r : ScheduleRequest) (job : Job) (w : World σ) : Prop :=
  Meets (q.schedule d r) w (fun s w' => s = ⟨job, false⟩ ∧ w.Stays w')
    fun _ w' => w.Stays w' ∧ q.IsFallible

/-- Serving a request gives a new job, which is added to the table. -/
def Creates (q : Queue σ) (d : Int) (r : ScheduleRequest) (n : Int) (w : World σ) : Prop :=
  ∃ w', q.schedule d r w = .ok ⟨q.newJob r n w, true⟩ w' ∧
    w'.tables = w.tables.insertJob (q.newJob r n w)

variable (q : Queue σ) {d n : Int} {r : ScheduleRequest} {w : World σ}

/-- A valid request without a key is served by its window. -/
theorem schedule_eq (hkey : r.idempotencyKey = none) (hvalid : r.validate d = .ok n) :
    q.schedule d r = q.serveByWindow r n := by
  funext w
  simp only [schedule, hvalid, lookupKey, hkey, bind_apply, pure_apply]

theorem schedule_reuses (hkey : r.idempotencyKey = none) (hvalid : r.validate d = .ok n)
    {job : Job} (hfound : w.tables.activeInWindow? r.key r.windowStart r.windowEnd = some job) :
    q.Reuses d r job w := by
  unfold Reuses
  rw [q.schedule_eq hkey hvalid]
  refine (q.lookupWindow_meets r w).bind (fun found w₁ h₁ => ?_) fun _ _ h => h
  obtain ⟨rfl, h₁⟩ := h₁
  rw [hfound]
  exact ⟨rfl, h₁⟩

theorem schedule_creates (hkey : r.idempotencyKey = none) (hvalid : r.validate d = .ok n)
    (hfree : r.slot ∉ w.tables.activeSlots) (hq : q.CanCreate w) : q.Creates d r n w := by
  obtain ⟨hinfallible, hfresh⟩ := hq
  have hmeets : Meets (q.schedule d r) w
      (fun s w' => s = ⟨q.newJob r n w, true⟩ ∧ w'.tables = w.tables.insertJob (q.newJob r n w))
      fun _ _ => False := by
    rw [q.schedule_eq hkey hvalid]
    refine (q.lookupWindow_meets r w).bind (fun found w₁ h₁ => ?_) fun _ _ h => hinfallible h.2
    obtain ⟨rfl, h₁⟩ := h₁
    rw [Tables.activeInWindow?_eq_none.2 hfree]
    have hnew : q.newJob r n w₁ = q.newJob r n w := by
      rw [newJob, newJob, h₁.named, h₁.now]
    refine (q.insertNew_meets r n w₁).bind (fun i w₂ h₂ => ?_) fun _ _ h => hinfallible h.2
    rw [hnew, h₁.tables] at h₂
    rcases h₂ with ⟨rfl, -, h₂⟩ | ⟨cause, -, -, hq | hconflict⟩
    · exact ⟨rfl, h₂.tables⟩
    · exact absurd hq hinfallible
    · have hid : w.tables.job? (q.newJob r n w).id = none := hfresh
      have hnone : (q.newJob r n w).idempotencyKey = none := hkey
      simp [Tables.conflict?, hid, hnone] at hconflict
  obtain ⟨s, w', hrun, rfl, htables⟩ := hmeets.exists_ok
  exact ⟨w', hrun, htables⟩

end Queue

/-! ## Runs -/

theorem Job.Settles.slot_eq {held : Job} {write : Job → Job} (h : held.Settles write) (row : Job) :
    (write row).slot = row.slot := by
  cases h <;> rfl

namespace Fleet

/-- No two active jobs cover one slot, and no request is about to cover a slot that is taken. -/
structure HasSlots (f : Fleet σ) : Prop where
  apart : f.world.tables.activeSlots.Nodup
  free : ∀ r ∈ f.requests, r.phase.FindsFree r.request f.world.tables

namespace HasSlots

variable {f g : Fleet σ}

theorem initial (now : Instant) (surroundings : σ) : (Fleet.initial now surroundings).HasSlots where
  apart := .nil
  free _ hr := by cases hr

/-- Moves that cover no further slot and leave the requests alone. -/
theorem of_sublist (h : f.HasSlots) (hrequests : g.requests = f.requests)
    (hslots : g.world.tables.activeSlots.Sublist f.world.tables.activeSlots) : g.HasSlots where
  apart := h.apart.sublist hslots
  free r hr := (h.free r (hrequests ▸ hr)).mono hslots.subset

/-- **A statement of the open request.** -/
theorem of_served (h : f.HasSlots) (hturn : f.InTurn) {q : Queue σ} {n : Nat} {r : OpenRequest}
    {p : Phase} {w : World σ} (hn : f.requests[n]? = some r)
    (hstep : Phase.Steps q r.request (r.phase, f.world) (p, w)) (history : List Deed) :
    HasSlots ⟨w, f.requests.set n ⟨r.request, p⟩, f.held, history⟩ := by
  obtain ⟨hfree, hapart⟩ := hstep.slots (h.free r (List.mem_of_getElem? hn)) h.apart
  refine ⟨hapart, ?_⟩
  intro s (hs : s ∈ f.requests.set n _)
  obtain ⟨i, hi⟩ := List.mem_iff_getElem?.1 hs
  rcases getElem?_set_cases hi with ⟨rfl, rfl⟩ | ⟨hne, hi⟩
  · exact hfree
  · cases hopen : r.phase.isOpen with
    | false =>
      obtain ⟨-, rfl⟩ := hstep.eq_of_not_isOpen hopen
      exact h.free s (List.mem_of_getElem? hi)
    | true =>
      -- all other requests have been answered, since this one is open
      apply Phase.findsFree_of_not_isOpen
      by_contra hopen'
      exact hne (hturn.alone i n s r hi hn (by simpa using hopen') hopen)

/-- **Every move** keeps the slots apart while calls come one at a time. -/
theorem act (h : f.HasSlots) (hturn : f.InTurn) (hcustody : f.InCustody) {q : Queue σ} {m : Move}
    (hrule : Rule.inTurn f q m) : (f.act q m).HasSlots := by
  have hmoves := act_moves q f m
  generalize f.act q m = g at hmoves
  cases hmoves with
  | clock | unserved | unadvanced => exact h.of_sublist rfl (.refl _)
  | unclaimed _ hw =>
    refine h.of_sublist rfl ?_
    rw [Tables.activeSlots_congr (congrArg _ hw.tables)]
  | scheduled hrun =>
    refine ⟨Phase.slots_of_steps hrun h.apart, ?_⟩
    intro r hr
    exact Phase.findsFree_of_not_isOpen (hrule rfl r hr)
  | @requested d r =>
    refine ⟨h.apart, ?_⟩
    intro s hs
    rcases List.mem_append.1 hs with hs | hs
    · exact h.free s hs
    · obtain rfl := List.mem_singleton.1 hs
      exact Phase.start_findsFree d
  | served hn hstep => exact h.of_served hturn hn hstep _
  | @claimed job w hbest hw =>
    have hwrite := Tables.rewrites_withClaim hw.tables
    have hrow := Tables.job?_of_mem hcustody.ids (Tables.mem_of_best? hbest).1
    have hclaimable := Tables.isClaimable_of_best? hbest
    refine h.of_sublist rfl (hwrite.activeSlots hrow rfl fun _ => ?_)
    exact JobStatus.isActive_of_isClaimable hclaimable
  | @advanced n answer held stage w hn hstep =>
    refine h.of_sublist rfl ?_
    rcases hstep.row with ⟨-, hjobs⟩ | ⟨hout, -, write, hsettles, hwrite⟩
    · rw [Tables.activeSlots_congr hjobs]
    · obtain ⟨hstatus, hrow⟩ := hcustody.rows held.job (mem_outstanding hn hout)
      refine hwrite.activeSlots hrow (hsettles.slot_eq held.job) fun _ => ?_
      rw [hstatus]
      rfl

end HasSlots

variable {f : Fleet σ}

theorem Arises.hasSlots (h : f.Arises .inTurn) : f.HasSlots := by
  have hall := h.induction (P := fun f => f.WellServed ∧ f.InCustody ∧ f.InTurn ∧ f.HasSlots)
    (fun now surroundings => ⟨wellServed_initial now surroundings, .initial now surroundings,
      .initial now surroundings, .initial now surroundings⟩) ?_
  · exact hall.2.2.2
  · rintro f q m hrule ⟨hserved, hcustody, hturn, hslots⟩
    exact ⟨hserved.act q m, hcustody.act hserved q m, hturn.act hrule,
      hslots.act hturn hcustody hrule⟩

/-- **The end of a job frees its slot**: after the move that makes the active job of a slot
terminal, no active job covers it. -/
theorem HasSlots.freed (h : f.HasSlots) (hcustody : f.InCustody) (hserved : f.WellServed)
    {q : Queue σ} {m : Move} {job row : Job} (hmem : job ∈ f.world.tables.jobs)
    (hactive : job.status.isActive) (hrow : (f.act q m).world.tables.job? job.id = some row)
    (hterminal : row.status.isActive = false) :
    job.slot ∉ (f.act q m).world.tables.activeSlots := by
  have hjob := Tables.job?_of_mem hcustody.ids hmem
  have hchanged : (f.act q m).world.tables.job? job.id ≠ some job := by
    intro hsame
    obtain rfl := Option.some.inj (hsame.symm.trans hrow)
    rw [hactive] at hterminal
    cases hterminal
  obtain ⟨write, hwrite, -⟩ := hcustody.rewrites hserved hjob hchanged
  intro hcovered
  obtain ⟨other, hother, hactive', hslot⟩ := Tables.mem_activeSlots.1 hcovered
  have hfound := Tables.job?_of_mem (hwrite.ids ▸ hcustody.ids) hother
  have hapart : other.id ≠ job.id := by
    intro heq
    rw [heq, hrow] at hfound
    obtain rfl := Option.some.inj hfound
    rw [hactive'] at hterminal
    cases hterminal
  -- another active job was there before the move as well
  rw [hwrite.job?_of_ne hapart] at hfound
  have hsame := Tables.eq_of_slot_eq h.apart (Tables.mem_of_job? hfound) hmem hactive' hactive hslot
  exact hapart (congrArg _ hsame)

/-- **One active job for each window.** No two active jobs cover one slot. So a valid request
without a key gets the active job for its window and changes nothing, as long as there is one; where
there is none it gets a new job, as it does right after the move that makes the active one
terminal. -/
theorem one_active_per_window (h : f.Arises .inTurn) :
    (f.world.tables.jobs.Pairwise fun a b =>
        a.status.isActive → b.status.isActive → a.slot ≠ b.slot) ∧
      ∀ (d n : Int) (r : ScheduleRequest), r.idempotencyKey = none → r.validate d = .ok n →
        (∀ job ∈ f.world.tables.jobs, job.status.isActive → job.slot = r.slot →
          ∀ q : Queue σ, q.Reuses d r job f.world) ∧
        ((∀ job ∈ f.world.tables.jobs, job.status.isActive → job.slot ≠ r.slot) →
          ∀ q : Queue σ, q.CanCreate f.world → q.Creates d r n f.world) ∧
        ∀ job ∈ f.world.tables.jobs, job.status.isActive → job.slot = r.slot →
          ∀ (q : Queue σ) (m : Move) (row : Job),
            (f.act q m).world.tables.job? job.id = some row → row.status.isActive = false →
            ∀ q' : Queue σ, q'.CanCreate (f.act q m).world → q'.Creates d r n (f.act q m).world := by
  have hslots := h.hasSlots
  refine ⟨?_, ?_⟩
  · have hapart := hslots.apart
    rw [Tables.activeSlots, List.Nodup, List.pairwise_map, List.pairwise_filter] at hapart
    exact hapart.imp fun hne ha hb => hne ha hb
  · intro d n r hkey hvalid
    refine ⟨?_, ?_, ?_⟩
    · intro job hmem hactive hslot q
      exact q.schedule_reuses hkey hvalid
        (Tables.activeInWindow?_eq_some hslots.apart hmem hactive hslot)
    · intro hfree q hq
      refine q.schedule_creates hkey hvalid ?_ hq
      intro hcovered
      obtain ⟨job, hmem, hactive, hslot⟩ := Tables.mem_activeSlots.1 hcovered
      exact hfree job hmem hactive hslot
    · intro job hmem hactive hslot q m row hrow hterminal q' hq'
      refine q'.schedule_creates hkey hvalid ?_ hq'
      rw [← hslot]
      exact hslots.freed h.inCustody h.wellServed hmem hactive hrow hterminal

/-- A job is claimed and executed, and its attempt is about to be finalized. -/
def nearlyDone : Fleet Unit :=
  plain
    [.schedule 3 (.plain none), .claim, .advance 0 (.result noopResult),
      .advance 0 (.result noopResult)]

theorem nearlyDone_arises : nearlyDone.Arises .inTurn :=
  ⟨⟨0⟩, (), leads_inTurn .plain rfl (by simp)⟩

/-- The same request gets the job until its attempt has been finalized, and then a new one. -/
theorem one_active_per_window_nearlyDone :
    ∃ job ∈ nearlyDone.world.tables.jobs,
      Queue.plain.Reuses 3 (.plain none) job nearlyDone.world ∧
        Queue.plain.Creates 3 (.plain none) 3
          (nearlyDone.act .plain (.advance 0 (.result noopResult))).world := by
  obtain ⟨-, h⟩ := one_active_per_window nearlyDone_arises
  obtain ⟨hreuses, -, hcreates⟩ := h 3 3 (.plain none) rfl (by decide +kernel)
  have hcan : Queue.plain.CanCreate
      (nearlyDone.act .plain (.advance 0 (.result noopResult))).world :=
    ⟨fun ⟨_, _, h⟩ => h rfl, by decide +kernel⟩
  have hjob : ∃ job ∈ nearlyDone.world.tables.jobs, job.status.isActive ∧
      job.slot = (ScheduleRequest.plain none).slot ∧
      ((nearlyDone.act .plain (.advance 0 (.result noopResult))).world.tables.job? job.id).any
        (!·.status.isActive) := by
    decide +kernel
  obtain ⟨job, hmem, hactive, hslot, hended⟩ := hjob
  obtain ⟨row, hrow, hterminal⟩ := (Option.any_eq_true ..).1 hended
  exact ⟨job, hmem, hreuses job hmem hactive hslot .plain,
    hcreates job hmem hactive hslot .plain _ row hrow (by simpa using hterminal) .plain hcan⟩

end Fleet

end SyncQueue
