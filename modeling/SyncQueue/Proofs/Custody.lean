import SyncQueue.Proofs.JobMoves

/-!
# Custody of claimed jobs

Finalizing and returning a job write values computed from the job as it was claimed, under its
identifier and without looking at the row again. This is safe because nobody else writes the row in
the meantime: a claimed row is in progress, which keeps other consumers from claiming it, and no
other move writes it.

* `Fleet.InCustody`: what is true of the claimed jobs of a fleet.
* `Fleet.InCustody.act`: every move keeps it.
* `Fleet.custody`: mutual exclusion and no lost update, for all runs.
-/

namespace SyncQueue

open Time (Instant)

variable {σ : Type}

/-! ## The row of an attempt that ends -/

namespace Job.Settles

variable {held : Job} {write : Job → Job}

/-- The row of a claimed job is not claimable again with the same number of attempts. -/
theorem counts (h : held.Settles write) :
    held.retryCount ≤ (write held).retryCount ∧
      ((write held).status.isClaimable → held.retryCount < (write held).retryCount) := by
  cases h with
  | completed now => exact ⟨Int.le_refl _, fun h => by cases h⟩
  | failed due summary now =>
    have hcount : (held.afterFailure due summary now held).retryCount = held.retryCount + 1 := rfl
    rw [hcount]
    exact ⟨by omega, fun _ => by omega⟩

end Job.Settles

namespace Fleet

/-- The claimed jobs of a fleet are in the custody of their consumers. -/
structure InCustody (f : Fleet σ) : Prop where
  ids : (f.world.tables.jobs.map (·.id)).Nodup
  /-- No job is outstanding twice. -/
  apart : (f.outstanding.map (·.id)).Nodup
  /-- The row of an outstanding job is the job as it was claimed. -/
  rows : ∀ job ∈ f.outstanding, job.status = .inProgress ∧ f.world.tables.job? job.id = some job
  /-- No attempt was claimed twice. -/
  once : f.attempts.Nodup
  /-- An attempt that was claimed is behind the count of its job before the job is claimable
  again. -/
  behind : ∀ id n, (id, n) ∈ f.attempts → ∃ row, f.world.tables.job? id = some row ∧
    n ≤ row.retryCount ∧ (row.status.isClaimable → n < row.retryCount)

namespace InCustody

variable {f g : Fleet σ}

theorem initial (now : Instant) (surroundings : σ) :
    (Fleet.initial now surroundings).InCustody where
  ids := .nil
  apart := .nil
  rows _ h := by cases h
  once := .nil
  behind _ _ h := by cases h

/-- Jobs that are left alone stay in custody. -/
theorem of_rests (h : f.InCustody) (hjobs : g.world.tables.jobs = f.world.tables.jobs)
    (hheld : g.outstanding = f.outstanding) (hattempts : g.attempts = f.attempts) :
    g.InCustody where
  ids := hjobs ▸ h.ids
  apart := hheld ▸ h.apart
  rows job hjob := by
    rw [Tables.job?_congr hjobs]
    exact h.rows job (hheld ▸ hjob)
  once := hattempts ▸ h.once
  behind id n hmem := by
    rw [Tables.job?_congr hjobs]
    exact h.behind id n (hattempts ▸ hmem)

theorem of_inserts (h : f.InCustody) {job : Job} (hfresh : f.world.tables.job? job.id = none)
    (hjobs : g.world.tables.jobs = (f.world.tables.insertJob job).jobs)
    (hheld : g.outstanding = f.outstanding) (hattempts : g.attempts = f.attempts) :
    g.InCustody where
  ids := by
    rw [hjobs]
    exact Tables.nodup_insertJob h.ids hfresh
  apart := hheld ▸ h.apart
  rows other hother := by
    obtain ⟨hstatus, hrow⟩ := h.rows other (hheld ▸ hother)
    rw [Tables.job?_congr hjobs]
    exact ⟨hstatus, Tables.job?_insertJob_of_some hrow⟩
  once := hattempts ▸ h.once
  behind id n hmem := by
    obtain ⟨row, hrow, hcount⟩ := h.behind id n (hattempts ▸ hmem)
    rw [Tables.job?_congr hjobs]
    exact ⟨row, Tables.job?_insertJob_of_some hrow, hcount⟩

/-- A claimable job is not outstanding, so a claim gives it to one consumer only. -/
theorem of_claims (h : f.InCustody) {job : Job} {now : Instant}
    (hmem : job ∈ f.world.tables.jobs) (hclaimable : job.status.isClaimable)
    (hwrite : f.world.tables.Rewrites job.id (·.claimed now) g.world.tables)
    (hheld : g.outstanding = f.outstanding ++ [job.claimed now])
    (hattempts : g.attempts = (job.id, job.retryCount) :: f.attempts) : g.InCustody := by
  have hrow : f.world.tables.job? job.id = some job := Tables.job?_of_mem h.ids hmem
  have hclaimed : g.world.tables.job? job.id = some (job.claimed now) := hwrite.job?_self hrow
  have hfree : ∀ other ∈ f.outstanding, other.id ≠ job.id := by
    intro other hin heq
    obtain ⟨hstatus, hfound⟩ := h.rows other hin
    obtain rfl : job = other := Option.some.inj (hrow.symm.trans (heq ▸ hfound))
    rw [hstatus] at hclaimable
    cases hclaimable
  refine ⟨hwrite.ids ▸ h.ids, ?_, fun other hin => ?_, ?_, fun id n hin => ?_⟩
  · rw [hheld]
    refine Tables.nodup_map_append h.apart fun hin => ?_
    obtain ⟨other, hother, heq⟩ := List.mem_map.1 hin
    exact hfree other hother heq
  · rw [hheld] at hin
    obtain hin | hin := List.mem_append.1 hin
    · rw [hwrite.job?_of_ne (hfree other hin)]
      exact h.rows other hin
    · obtain rfl := List.mem_singleton.1 hin
      exact ⟨rfl, hclaimed⟩
  · -- an attempt claimed before is behind the count of a job that is claimable again
    rw [hattempts]
    refine List.nodup_cons.2 ⟨fun hin => ?_, h.once⟩
    obtain ⟨row, hfound, -, hcount⟩ := h.behind _ _ hin
    obtain rfl : job = row := Option.some.inj (hrow.symm.trans hfound)
    exact Int.lt_irrefl _ (hcount hclaimable)
  · rw [hattempts] at hin
    by_cases hne : id = job.id
    · subst hne
      refine ⟨_, hclaimed, ?_, fun h => by cases h⟩
      obtain hin | hin := List.mem_cons.1 hin
      · cases hin
        exact Int.le_refl _
      · obtain ⟨row, hfound, hcount, -⟩ := h.behind _ _ hin
        obtain rfl : job = row := Option.some.inj (hrow.symm.trans hfound)
        exact hcount
    · rw [hwrite.job?_of_ne hne]
      refine h.behind id n ((List.mem_cons.1 hin).resolve_left fun heq => hne ?_)
      exact congrArg Prod.fst heq

/-- The end of an attempt writes the row of its own job only. -/
theorem of_settles (h : f.InCustody) {job : Job} {before after : List Job} {write : Job → Job}
    (hsettles : job.Settles write) (hbefore : f.outstanding = before ++ job :: after)
    (hwrite : f.world.tables.Rewrites job.id write g.world.tables)
    (hheld : g.outstanding = before ++ after) (hattempts : g.attempts = f.attempts) :
    g.InCustody := by
  have hrow : f.world.tables.job? job.id = some job := (h.rows job (by simp [hbefore])).2
  have hapart := h.apart
  rw [hbefore, List.map_append, List.map_cons, List.nodup_middle, List.nodup_cons,
    ← List.map_append] at hapart
  refine ⟨hwrite.ids ▸ h.ids, hheld ▸ hapart.2, fun other hin => ?_, hattempts ▸ h.once,
    fun id n hin => ?_⟩
  · rw [hheld] at hin
    rw [hwrite.job?_of_ne fun heq => hapart.1 (heq ▸ List.mem_map_of_mem hin)]
    refine h.rows other ?_
    rw [hbefore, List.mem_append, List.mem_cons]
    exact (List.mem_append.1 hin).imp id .inr
  · obtain ⟨row, hfound, hcount⟩ := h.behind id n (hattempts ▸ hin)
    by_cases hne : id = job.id
    · subst hne
      obtain rfl : job = row := Option.some.inj (hrow.symm.trans hfound)
      obtain ⟨hle, hlt⟩ := hsettles.counts
      exact ⟨_, hwrite.job?_self hrow, Int.le_trans hcount.1 hle,
        fun hc => Int.lt_of_le_of_lt hcount.1 (hlt hc)⟩
    · rw [hwrite.job?_of_ne hne]
      exact ⟨row, hfound, hcount⟩

/-- **Every move** keeps the jobs in custody. -/
theorem act (h : f.InCustody) (hserved : f.WellServed) (q : Queue σ) (m : Move) :
    (f.act q m).InCustody := by
  have hmoves := act_jobMoves hserved q m
  generalize f.act q m = g at hmoves
  cases hmoves with
  | rests hjobs hheld hattempts => exact h.of_rests hjobs hheld hattempts
  | inserts _ hfresh hjobs hheld hattempts => exact h.of_inserts hfresh hjobs hheld hattempts
  | claims now hmem hclaimable hwrite hheld hattempts =>
    exact h.of_claims hmem hclaimable hwrite hheld hattempts
  | settles _ _ hsettles hbefore hwrite hheld hattempts =>
    exact h.of_settles hsettles hbefore hwrite hheld hattempts

end InCustody

variable {rule : Rule σ} {f : Fleet σ}

theorem Arises.wellServed (h : f.Arises rule) : f.WellServed :=
  h.induction wellServed_initial fun _ q m _ hf => hf.act q m

theorem Arises.inCustody (h : f.Arises rule) : f.InCustody :=
  (h.induction (P := fun f => f.WellServed ∧ f.InCustody)
    (fun now surroundings => ⟨wellServed_initial now surroundings, .initial now surroundings⟩)
    fun _ q m _ hf => ⟨hf.1.act q m, hf.2.act hf.1 q m⟩).2

/-- **Writing a row**: a move that changes a stored job writes that row alone. It claims the job
while it is claimable, or settles the attempt of the consumer in whose custody it is. -/
theorem InCustody.rewrites (h : f.InCustody) (hserved : f.WellServed) {q : Queue σ} {m : Move}
    {row : Job} (hrow : f.world.tables.job? row.id = some row)
    (hchanged : (f.act q m).world.tables.job? row.id ≠ some row) :
    ∃ write, f.world.tables.Rewrites row.id write (f.act q m).world.tables ∧
      ((m = .claim ∧ row.status.isClaimable ∧ ∃ now, write = (·.claimed now)) ∨
        ∃ n answer stage, m = .advance n answer ∧ f.held[n]? = some ⟨row, stage⟩ ∧
          stage.isOutstanding ∧ row.Settles write) := by
  have hmoves := act_jobMoves hserved q m
  generalize f.act q m = g at hmoves hchanged
  cases hmoves with
  | rests hjobs => exact absurd ((Tables.job?_congr hjobs row.id).trans hrow) hchanged
  | inserts _ _ hjobs =>
    exact absurd ((Tables.job?_congr hjobs row.id).trans (Tables.job?_insertJob_of_some hrow))
      hchanged
  | @claims g job now hmem hclaimable hwrite =>
    have hjob := Tables.job?_of_mem h.ids hmem
    by_cases hne : row.id = job.id
    · obtain rfl : job = row := Option.some.inj (hjob.symm.trans (hne ▸ hrow))
      exact ⟨_, hwrite, .inl ⟨rfl, hclaimable, now, rfl⟩⟩
    · exact absurd ((hwrite.job?_of_ne hne).trans hrow) hchanged
  | @settles n answer g held before after write hn hout hsettles hbefore hwrite =>
    have hjob := (h.rows held.job (by simp [hbefore])).2
    by_cases hne : row.id = held.job.id
    · obtain rfl : held.job = row := Option.some.inj (hjob.symm.trans (hne ▸ hrow))
      exact ⟨write, hwrite, .inr ⟨n, answer, held.stage, rfl, hn, hout, hsettles⟩⟩
    · exact absurd ((hwrite.job?_of_ne hne).trans hrow) hchanged

/-- What a changed row has become. -/
theorem InCustody.writer (h : f.InCustody) (hserved : f.WellServed) {q : Queue σ} {m : Move}
    {row : Job} (hrow : f.world.tables.job? row.id = some row)
    (hchanged : (f.act q m).world.tables.job? row.id ≠ some row) :
    (m = .claim ∧ row.status.isClaimable ∧
        ∃ now, (f.act q m).world.tables.job? row.id = some (row.claimed now)) ∨
      ∃ n answer stage write, m = .advance n answer ∧ f.held[n]? = some ⟨row, stage⟩ ∧
        stage.isOutstanding ∧ row.Settles write ∧
        (f.act q m).world.tables.job? row.id = some (write row) := by
  obtain ⟨write, hwrite, hcause⟩ := h.rewrites hserved hrow hchanged
  have hnew := hwrite.job?_self hrow
  rcases hcause with ⟨hm, hclaimable, now, rfl⟩ | ⟨n, answer, stage, hm, hn, hout, hsettles⟩
  · exact .inl ⟨hm, hclaimable, now, hnew⟩
  · exact .inr ⟨n, answer, stage, write, hm, hn, hout, hsettles, hnew⟩

/-- **Mutual exclusion and no lost update.** In every fleet no job is outstanding twice, every
outstanding job is in progress and its row is the job as it was claimed, no attempt is claimed
twice, and whoever changes a row claims it while it is claimable or holds it unchanged. -/
theorem custody (h : f.Arises rule) :
    (f.outstanding.map (·.id)).Nodup ∧
      (∀ job ∈ f.outstanding,
        job.status = .inProgress ∧ f.world.tables.job? job.id = some job) ∧
      f.attempts.Nodup ∧
      ∀ (q : Queue σ) (m : Move) (row : Job), f.world.tables.job? row.id = some row →
        (f.act q m).world.tables.job? row.id ≠ some row →
        (m = .claim ∧ row.status.isClaimable ∧
            ∃ now, (f.act q m).world.tables.job? row.id = some (row.claimed now)) ∨
          ∃ n answer stage write, m = .advance n answer ∧ f.held[n]? = some ⟨row, stage⟩ ∧
            stage.isOutstanding ∧ row.Settles write ∧
            (f.act q m).world.tables.job? row.id = some (write row) :=
  ⟨h.inCustody.apart, h.inCustody.rows, h.inCustody.once,
    fun _ _ _ => h.inCustody.writer h.wellServed⟩

/-- Two consumers ask for a job, and there is one. -/
def contested : Fleet Unit := plain [.schedule 3 (.plain none), .claim, .claim]

/-- One of them has it, and it is in progress. -/
theorem custody_contested :
    contested.outstanding.length = 1 ∧ contested.attempts.Nodup ∧
      ∀ job ∈ contested.outstanding,
        job.status = .inProgress ∧ contested.world.tables.job? job.id = some job := by
  have h := custody (plain_arises (fun _ _ => trivial) _ : contested.Arises .free)
  exact ⟨by decide +kernel, h.2.2.1, h.2.1⟩

end Fleet

end SyncQueue
