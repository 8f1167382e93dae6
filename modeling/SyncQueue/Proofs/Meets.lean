import SyncQueue.Proofs.Rows
import SyncQueue.Queue.Computation

/-!
# Conditions on results

`Meets x w ok error` says what is true of the result of a computation `x` at a world `w`: of its
value and the world after it when it succeeds, and of its error and the world after it when it
fails. Conditions follow the way a computation is built: `Meets.bind` for a sequence,
`Meets.within` for a named operation, `Meets.transaction` for a transaction.

`World.Becomes` is the condition that nearly every operation meets: apart from the log and the
counters of statements, only the tables and the events are other than before, and it says what they
are. A transaction that fails leaves both as they were, whatever its statements had done.
-/

namespace SyncQueue

variable {σ α β ε : Type}

/-- The result of a computation at a world: a value and a world that meet one condition, or an
error and a world that meet another one. -/
def Meets {ω : Type} (x : EStateM ε ω α) (w : ω) (P : α → ω → Prop) (E : ε → ω → Prop) : Prop :=
  match x w with
  | .ok a w' => P a w'
  | .error e w' => E e w'

namespace Meets

section Rules

variable {ω : Type} {x : EStateM ε ω α} {f : α → EStateM ε ω β} {w w' : ω} {P P' : α → ω → Prop}
  {Q : β → ω → Prop} {E F : ε → ω → Prop}

theorem ok_of_eq (h : Meets x w P E) {a : α} (hx : x w = .ok a w') : P a w' := by
  simpa only [Meets, hx] using h

theorem error_of_eq (h : Meets x w P E) {e : ε} (hx : x w = .error e w') : E e w' := by
  simpa only [Meets, hx] using h

/-- What a computation does. -/
theorem result (x : EStateM ε ω α) (w : ω) :
    Meets x w (fun a w' => x w = .ok a w') fun e w' => x w = .error e w' := by
  unfold Meets
  cases x w <;> rfl

/-- A computation that cannot fail has a result. -/
theorem exists_ok (h : Meets x w P fun _ _ => False) : ∃ a w', x w = .ok a w' ∧ P a w' := by
  cases hx : x w with
  | ok a w' => exact ⟨a, w', rfl, h.ok_of_eq hx⟩
  | error e w' => exact (h.error_of_eq hx).elim

theorem mono (h : Meets x w P F) (hP : ∀ a w', P a w' → P' a w')
    (hF : ∀ e w', F e w' → E e w') : Meets x w P' E := by
  unfold Meets at h ⊢
  split at h
  · exact hP _ _ h
  · exact hF _ _ h

theorem throw {e : ε} (h : E e w) : Meets (throw e : EStateM ε ω α) w P E := h

/-- A sequence: the second computation starts where the first one ended. -/
theorem bind (h : Meets x w P F) (hf : ∀ a w', P a w' → Meets (f a) w' Q E)
    (hF : ∀ e w', F e w' → E e w') : Meets (x >>= f) w Q E := by
  unfold Meets at h ⊢
  rw [bind_apply]
  cases hx : x w with
  | ok a w' =>
    rw [hx] at h
    exact hf a w' h
  | error e w' =>
    rw [hx] at h
    exact hF e w' h

/-- A sequence whose first computation cannot fail. -/
theorem bind_total (h : Meets x w P fun _ _ => False) (hf : ∀ a w', P a w' → Meets (f a) w' Q E) :
    Meets (x >>= f) w Q E :=
  h.bind hf fun _ _ h => h.elim

/-- A computation that is run on a condition only, before another one. -/
theorem onlyIf {c : Prop} [Decidable c] {y : EStateM ε ω Unit} {g : Unit → EStateM ε ω β}
    {M : Unit → ω → Prop} (hy : c → Meets y w M F) (hskip : ¬c → M () w)
    (hg : ∀ w', M () w' → Meets (g ()) w' Q E) (hF : ∀ e w', F e w' → E e w') :
    Meets (if c then y >>= g else g ()) w Q E := by
  split
  · rename_i hc
    exact (hy hc).bind (fun _ => hg) hF
  · rename_i hc
    exact hg w (hskip hc)

end Rules

end Meets

/-! ## What operations change -/

/-- The world after an operation that leaves the given tables and the given events; apart from
these, only the log and the counters of statements may be other than before. -/
structure World.Becomes (w : World σ) (tables : Tables) (events : List Event) (w' : World σ) :
    Prop where
  tables : w'.tables = tables
  events : w'.events = events
  now : w'.now = w.now
  flags : w'.flags = w.flags
  underway : w'.underway = w.underway
  named : w'.named = w.named
  surroundings : w'.surroundings = w.surroundings

/-- The world after an operation that has no effect. -/
def World.Stays (w w' : World σ) : Prop := w.Becomes w.tables w.events w'

namespace World

variable {w w' w'' : World σ} {t t' : Tables} {es es' : List Event}

theorem Stays.refl (w : World σ) : w.Stays w := ⟨rfl, rfl, rfl, rfl, rfl, rfl, rfl⟩

theorem Becomes.trans (h : w.Becomes t es w') (h' : w'.Becomes t' es' w'') :
    w.Becomes t' es' w'' where
  tables := h'.tables
  events := h'.events
  now := h'.now.trans h.now
  flags := h'.flags.trans h.flags
  underway := h'.underway.trans h.underway
  named := h'.named.trans h.named
  surroundings := h'.surroundings.trans h.surroundings

theorem Becomes.trans_stays (h : w.Becomes t es w') (h' : w'.Stays w'') : w.Becomes t es w'' := by
  obtain ⟨rfl, rfl, -, -, -, -, -⟩ := id h
  exact h.trans h'

theorem Stays.trans (h : w.Stays w') (h' : w'.Becomes t es w'') : w.Becomes t es w'' :=
  Becomes.trans h h'

/-- One write after another. -/
theorem Becomes.step (h : w.Becomes t w.events w') (h' : w'.Becomes t' w'.events w'') :
    w.Becomes t' w.events w'' :=
  h.events ▸ h.trans h'

/-- What a world has become, said through the world itself. -/
theorem Becomes.writes (h : w.Becomes t w.events w') : w.Becomes w'.tables w.events w' :=
  h.tables.symm ▸ h

theorem stays_logged (w : World σ) (notice : Notice) : w.Stays (w.logged notice) :=
  ⟨rfl, rfl, rfl, rfl, rfl, rfl, rfl⟩

theorem becomes_emitted (w : World σ) (e : Event) :
    w.Becomes w.tables (e :: w.events) (w.emitted e) :=
  ⟨rfl, rfl, rfl, rfl, rfl, rfl, rfl⟩

end World

/-- The store refuses some statement. -/
def Queue.IsFallible (q : Queue σ) : Prop := ∃ w s, q.faults w s ≠ none

/-! ## Computations of the queue -/

section Queue

variable {q : Queue σ} {x : QueueM σ α} {w : World σ} {P : α → World σ → Prop}
  {E F : QueueError → World σ → Prop}

theorem Meets.clock {P : Time.Instant → World σ → Prop} (h : P w.now w) : Meets clock w P E := h

theorem Meets.log {P : Unit → World σ → Prop} {notice : Notice} (h : P () (w.logged notice)) :
    Meets (log notice) w P E := h

theorem Meets.emit {P : Unit → World σ → Prop} {e : Event} (h : P () (w.emitted e)) :
    Meets (emit e) w P E := h

/-- Looking at the world changes nothing. -/
theorem Meets.get_bind {f : World σ → QueueM σ α} (h : Meets (f w) w P E) :
    Meets (get >>= f) w P E := h

theorem Meets.modify_bind {change : World σ → World σ} {f : Unit → QueueM σ α}
    (h : Meets (f ()) (change w) P E) : Meets (modify change >>= f) w P E := h

/-- After a notice the tables and the events are as before. -/
theorem Meets.log_bind {notice : Notice} {f : Unit → QueueM σ α}
    (h : ∀ w', w.Stays w' → Meets (f ()) w' P E) : Meets (SyncQueue.log notice >>= f) w P E :=
  h _ (w.stays_logged notice)

/-- After an event the tables are as before. -/
theorem Meets.emit_bind {e : Event} {f : Unit → QueueM σ α}
    (h : ∀ w', w.Becomes w.tables (e :: w.events) w' → Meets (f ()) w' P E) :
    Meets (SyncQueue.emit e >>= f) w P E :=
  h _ (w.becomes_emitted e)

theorem Meets.recover {handle : QueueError → QueueM σ α} (h : Meets x w P F)
    (hhandle : ∀ e w', F e w' → Meets (handle e) w' P E) : Meets (recover x handle) w P E := by
  unfold Meets at h ⊢
  rw [recover_apply]
  cases hx : x w with
  | ok a w' => simpa only [hx] using h
  | error e w' =>
    rw [hx] at h
    exact hhandle e w' h

/-- The world is changed in the end, whether the computation fails or not. -/
theorem Meets.finallyModify {change : World σ → World σ}
    (h : Meets x w (fun a w' => P a (change w')) fun e w' => E e (change w')) :
    Meets (finallyModify x change) w P E := by
  unfold Meets at h ⊢
  unfold SyncQueue.finallyModify
  cases hx : x w <;> simpa only [hx] using h

/-- A failure that is named is reported in the log only. -/
theorem Meets.within {y : StoreM σ α} {context : String} {C : Prop}
    (h : Meets y w P fun _ w' => w.Stays w' ∧ C) :
    Meets (within context y) w P fun _ w' => w.Stays w' ∧ C := by
  unfold Meets at h ⊢
  unfold SyncQueue.within
  cases hy : y w with
  | ok a w' => simpa only [hy] using h
  | error e w' =>
    rw [hy] at h
    exact ⟨h.1.trans_stays ⟨rfl, rfl, rfl, rfl, rfl, rfl, rfl⟩, h.2⟩

namespace Queue

/-! ## Statements -/

theorem send_meets (q : Queue σ) (kind : StatementKind) (tables : List Table) (touches : Bool)
    (w : World σ) :
    Meets (q.send kind tables touches) w (fun _ w' => w.Stays w' ∧ w'.drawn = w.drawn)
      fun _ w' => w.Stays w' ∧ q.IsFallible := by
  unfold Meets send
  dsimp only
  cases hfault : q.faults { w with issued := w.issued + 1 }
      ⟨kind, tables, touches, w.transaction.isSome⟩ with
  | some e =>
    exact ⟨⟨rfl, rfl, rfl, rfl, rfl, rfl, rfl⟩, _, _, Option.isSome_iff_ne_none.1 (by
      rw [hfault, Option.isSome_some])⟩
  | none => exact ⟨⟨rfl, rfl, rfl, rfl, rfl, rfl, rfl⟩, rfl⟩

theorem read_meets (q : Queue σ) (tables : List Table) (f : Tables → α) (w : World σ) :
    Meets (q.read tables f) w (fun a w' => a = f w.tables ∧ w.Stays w')
      fun _ w' => w.Stays w' ∧ q.IsFallible := by
  refine (q.send_meets .read tables false w).bind (fun _ w₁ ⟨h₁, _⟩ => ?_) fun _ _ h => h
  exact ⟨congrArg f h₁.tables, h₁⟩

theorem write_meets (q : Queue σ) (kind : StatementKind) (table : Table)
    (touches : Tables → Bool) (f : Tables → Tables) (w : World σ) :
    Meets (q.write kind table touches f) w (fun _ w' => w.Becomes (f w.tables) w.events w')
      fun _ w' => w.Stays w' ∧ q.IsFallible := by
  refine (q.send_meets kind [table] (touches w.tables) w).bind (fun _ w₁ ⟨h₁, _⟩ => ?_)
    fun _ _ h => h
  exact ⟨congrArg f h₁.tables, h₁.events, h₁.now, h₁.flags, h₁.underway, h₁.named,
    h₁.surroundings⟩

/-- A job is changed, or it was not there, or the store refuses. -/
theorem updateJob_meets (q : Queue σ) (id : Uuid) (f : Job → Job) (w : World σ) :
    Meets (q.updateJob id f) w
      (fun _ w' => (w.tables.job? id).isSome ∧ w.Becomes (w.tables.modifyJob id f) w.events w')
      fun _ w' => w.Stays w' ∧ (q.IsFallible ∨ w.tables.job? id = none) := by
  refine (q.write_meets .update .jobs (fun _ => (w.tables.job? id).isSome)
    (·.modifyJob id f) w).bind (fun _ w₁ h₁ => ?_) fun _ _ h => ⟨h.1, .inl h.2⟩
  cases hjob : w.tables.job? id with
  | some job => exact ⟨rfl, h₁⟩
  | none =>
    have hsame : w.tables.modifyJob id f = w.tables := by
      simp only [Tables.modifyJob, Tables.modifyFirst_of_find?_eq_none hjob]
    rw [hsame] at h₁
    exact ⟨h₁, .inr rfl⟩

/-- A job is added, or it is a duplicate, or the store refuses. -/
theorem insertJob_meets (q : Queue σ) (job : Job) (w : World σ) :
    Meets (q.insertJob job) w
      (fun _ w' => w.tables.conflict? job = none ∧
        w.Becomes (w.tables.insertJob job) w.events w')
      fun e w' => w.Stays w' ∧ (q.IsFallible ∨ w.tables.conflict? job = some e) := by
  refine (q.send_meets .insert [.jobs] true w).bind (fun _ w₁ ⟨h₁, _⟩ => ?_)
    fun _ _ h => ⟨h.1, .inl h.2⟩
  simp only [Meets, bind_apply, get_apply, h₁.tables]
  cases hjob : w.tables.conflict? job with
  | some e => exact ⟨h₁, .inr rfl⟩
  | none =>
    exact ⟨rfl, congrArg (·.insertJob job) h₁.tables, h₁.events, h₁.now, h₁.flags, h₁.underway,
      h₁.named, h₁.surroundings⟩

theorem commit_meets (q : Queue σ) (context : String) (w : World σ) :
    Meets (q.commit context) w (fun _ w' => w.Stays w')
      fun _ w' => w.Stays w' ∧ q.IsFallible :=
  ((q.send_meets .commit [] (w.transaction.getD false) w).mono (fun _ _ h => h.1)
    fun _ _ h => h).within

/-- **A transaction** takes effect as a whole or not at all: where its body fails, the tables are
those of the world before. Opening it takes no random word. -/
theorem transaction_meets {opening : String} {body : QueueM σ α} {P : α → Tables → Prop} {C : Prop}
    (h : ∀ opened, w.Stays opened → opened.drawn = w.drawn →
      Meets body opened (fun a w' => P a w'.tables ∧ opened.Becomes w'.tables opened.events w')
        fun _ w' => opened.Becomes w'.tables opened.events w' ∧ (q.IsFallible ∨ C)) :
    Meets (q.transaction opening body) w
      (fun a w' => P a w'.tables ∧ w.Becomes w'.tables w.events w')
      fun _ w' => w.Stays w' ∧ (q.IsFallible ∨ C) := by
  have hbegin : Meets (within opening (q.send .begin [] false)) w
      (fun _ w' => w.Stays w' ∧ w'.drawn = w.drawn) fun _ w' => w.Stays w' ∧ q.IsFallible :=
    (q.send_meets .begin [] false w).within
  unfold Meets transaction
  cases hopened : within opening (q.send .begin [] false) w with
  | error e w' =>
    obtain ⟨hw', hq⟩ := hbegin.error_of_eq hopened
    exact ⟨hw', .inl hq⟩
  | ok u opened =>
    obtain ⟨hstays, hdrawn⟩ := hbegin.ok_of_eq hopened
    have hopen : w.Stays { opened with transaction := some false } :=
      hstays.trans_stays ⟨rfl, rfl, rfl, rfl, rfl, rfl, rfl⟩
    have hbody := h _ hopen hdrawn
    unfold Meets at hbody
    dsimp only
    split at hbody
    · rename_i a w' hrun
      rw [hrun]
      obtain ⟨hP, hw'⟩ := hbody
      have := World.Becomes.trans hopen hw'
      exact ⟨hP, rfl, hw'.events.trans hopen.events, this.now, this.flags, this.underway,
        this.named, this.surroundings⟩
    · rename_i e w' hrun
      rw [hrun]
      obtain ⟨hw', hC⟩ := hbody
      have := World.Becomes.trans hopen hw'
      exact ⟨⟨hstays.tables, hw'.events.trans hopen.events, this.now, this.flags, this.underway,
        this.named, this.surroundings⟩, hC⟩

end Queue

end Queue

end SyncQueue
