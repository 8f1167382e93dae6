import Mathlib.Data.List.Nodup
import SyncQueue.Queue.Consumer

/-!
# Rows after a change

A table is a list of rows, and a change of one row is `modifyFirst`. This module says what is found
in a table after a change: the changed row under its own key, and every other row as before.

* `find?_modifyFirst_self`, `find?_modifyFirst_of_disjoint`: looking up after a change.
* `modifyFirst_comm`, `perm_of_filter_eq`: changes in either order, and rows kind by kind.
* `job?_modifyJob`, `job?_insertJob`: the same for jobs and their identifiers.
* `Rewrites`: the tables after the row of one job has been written.
* `stat?_modifyStat`, `stat?_insertStat`: the same for statistics rows and their keys.
-/

namespace SyncQueue

open Time (Instant)

namespace Tables

/-! ## Changing the first row -/

section ModifyFirst

variable {α β : Type} {p r : α → Bool} {f g : α → α} {rows : List α}

theorem find?_modifyFirst_self (hf : ∀ a, p a = true → p (f a) = true) :
    (modifyFirst p f rows).find? p = (rows.find? p).map f := by
  induction rows with
  | nil => rfl
  | cons a rows ih =>
    cases hp : p a with
    | true => simp [modifyFirst, hp, hf a hp]
    | false => simp [modifyFirst, hp, ih]

/-- A change of the first row of a kind is made among the rows of a wider kind. -/
theorem filter_modifyFirst_of_imp (hr : ∀ a, p a = true → r a = true ∧ r (f a) = true) :
    (modifyFirst p f rows).filter r = modifyFirst p f (rows.filter r) := by
  induction rows with
  | nil => rfl
  | cons a rows ih =>
    cases hp : p a with
    | true => simp [modifyFirst, hp, hr a hp]
    | false => cases hra : r a <;> simp [modifyFirst, hp, hra, ih]

theorem filter_modifyFirst_self (hf : ∀ a, p a = true → p (f a) = true) :
    (modifyFirst p f rows).filter p = modifyFirst p f (rows.filter p) :=
  filter_modifyFirst_of_imp fun a ha => ⟨ha, hf a ha⟩

/-- A change of rows of one kind is not seen by a look at rows of another kind. -/
theorem filter_modifyFirst_of_disjoint
    (hf : ∀ a, p a = true → r a = false ∧ r (f a) = false) :
    (modifyFirst p f rows).filter r = rows.filter r := by
  induction rows with
  | nil => rfl
  | cons a rows ih =>
    cases hp : p a with
    | true => simp [modifyFirst, hp, hf a hp]
    | false => simp [modifyFirst, hp, List.filter_cons, ih]

theorem find?_modifyFirst_of_disjoint
    (hf : ∀ a, p a = true → r a = false ∧ r (f a) = false) :
    (modifyFirst p f rows).find? r = rows.find? r := by
  rw [← List.head?_filter, ← List.head?_filter, filter_modifyFirst_of_disjoint hf]

/-- What a change leaves alone is the same in every row. -/
theorem map_modifyFirst {view : α → β} (hf : ∀ a, p a = true → view (f a) = view a) :
    (modifyFirst p f rows).map view = rows.map view := by
  induction rows with
  | nil => rfl
  | cons a rows ih =>
    cases hp : p a with
    | true => simp [modifyFirst, hp, hf a hp]
    | false => simp [modifyFirst, hp, ih]

theorem modifyFirst_modifyFirst (hf : ∀ a, p a = true → p (f a) = true) :
    modifyFirst p g (modifyFirst p f rows) = modifyFirst p (g ∘ f) rows := by
  induction rows with
  | nil => rfl
  | cons a rows ih =>
    cases hp : p a with
    | true => simp [modifyFirst, hp, hf a hp]
    | false => simp [modifyFirst, hp, ih]

/-- Changes of rows of different kinds can be made in either order. -/
theorem modifyFirst_comm (hp : ∀ a, p a = true → r a = false ∧ r (f a) = false)
    (hr : ∀ a, r a = true → p (g a) = false) :
    modifyFirst p f (modifyFirst r g rows) = modifyFirst r g (modifyFirst p f rows) := by
  induction rows with
  | nil => rfl
  | cons a rows ih =>
    cases hpa : p a with
    | true => simp [modifyFirst, hpa, hp a hpa]
    | false =>
      cases hra : r a with
      | true => simp [modifyFirst, hpa, hra, hr a hra]
      | false => simp [modifyFirst, hpa, hra, ih]

/-- A change of the first row depends on that row only. -/
theorem modifyFirst_congr {a : α} (ha : rows.find? p = some a) (hfg : f a = g a) :
    modifyFirst p f rows = modifyFirst p g rows := by
  induction rows with
  | nil => rfl
  | cons b rows ih =>
    cases hp : p b with
    | true =>
      obtain rfl : b = a := by simpa [hp] using ha
      simp [modifyFirst, hp, hfg]
    | false => simp [modifyFirst, hp, ih (by simpa [hp] using ha)]

theorem modifyFirst_append_of_find?_eq_none {l : List α} (h : rows.find? p = none) :
    modifyFirst p f (rows ++ l) = rows ++ modifyFirst p f l := by
  induction rows with
  | nil => rfl
  | cons a rows ih =>
    rw [List.find?_cons] at h
    cases hp : p a with
    | true => simp [hp] at h
    | false => simp [modifyFirst, hp, ih (by simpa [hp] using h)]

theorem modifyFirst_of_find?_eq_none (h : rows.find? p = none) : modifyFirst p f rows = rows := by
  simpa [modifyFirst] using modifyFirst_append_of_find?_eq_none (f := f) (l := []) h

/-- A change takes place where the row is, between the rows before it and those after it. -/
theorem modifyFirst_split {a : α} (ha : rows.find? p = some a) :
    ∃ before after, rows = before ++ a :: after ∧
      ∀ f, modifyFirst p f rows = before ++ f a :: after := by
  induction rows with
  | nil => cases ha
  | cons b rows ih =>
    cases hp : p b with
    | true =>
      obtain rfl : b = a := by simpa [hp] using ha
      exact ⟨[], rows, rfl, fun f => by simp [modifyFirst, hp]⟩
    | false =>
      obtain ⟨before, after, hrows, hmodify⟩ := ih (by simpa [hp] using ha)
      refine ⟨b :: before, after, by rw [hrows, List.cons_append], fun f => ?_⟩
      simp [modifyFirst, hp, hmodify]

/-- A row after a change was there before, or it is the changed row. -/
theorem mem_modifyFirst {a : α} (h : a ∈ modifyFirst p f rows) :
    a ∈ rows ∨ ∃ b, rows.find? p = some b ∧ a = f b := by
  induction rows with
  | nil => cases h
  | cons b rows ih =>
    cases hp : p b with
    | true =>
      simp only [modifyFirst, hp, if_true, List.mem_cons] at h
      obtain rfl | h := h
      · exact .inr ⟨b, by simp [hp], rfl⟩
      · exact .inl (List.mem_cons_of_mem _ h)
    | false =>
      simp only [modifyFirst, hp, Bool.false_eq_true, if_false, List.mem_cons] at h
      obtain rfl | h := h
      · exact .inl List.mem_cons_self
      · obtain h | ⟨c, hc, rfl⟩ := ih h
        · exact .inl (List.mem_cons_of_mem _ h)
        · exact .inr ⟨c, by simp [hp, hc], rfl⟩

/-- A row that the change does not look for stays in its place. -/
theorem getElem?_modifyFirst {a : α} {i : Nat} (ha : rows[i]? = some a) (hp : p a = false) :
    (modifyFirst p f rows)[i]? = some a := by
  induction rows generalizing i with
  | nil => simp at ha
  | cons b rows ih =>
    cases hb : p b with
    | true =>
      cases i with
      | zero => simp_all
      | succ i => simpa [modifyFirst, hb] using ha
    | false =>
      cases i with
      | zero => simpa [modifyFirst, hb] using ha
      | succ i =>
        simp only [modifyFirst, hb, Bool.false_eq_true, if_false, List.getElem?_cons_succ]
        exact ih (by simpa using ha)

/-- A change of all rows of a kind that takes them out of it leaves none. -/
theorem filter_modifyAll_self (hf : ∀ a, p a = true → p (f a) = false) :
    (modifyAll p f rows).filter p = [] := by
  refine List.filter_eq_nil_iff.2 fun a ha => ?_
  obtain ⟨b, -, rfl⟩ := List.mem_map.1 ha
  split
  · rename_i hb
    simp [hf b hb]
  · assumption

theorem filter_modifyAll_of_disjoint (hf : ∀ a, p a = true → r a = false ∧ r (f a) = false) :
    (modifyAll p f rows).filter r = rows.filter r := by
  induction rows with
  | nil => rfl
  | cons a rows ih =>
    rw [modifyAll] at ih ⊢
    cases hp : p a with
    | true => simp [hp, hf a hp, ih]
    | false => simp [hp, List.filter_cons, ih]

/-- A change of all rows of a kind is made among the rows of a wider kind. -/
theorem filter_modifyAll_of_imp (hr : ∀ a, p a = true → r a = true ∧ r (f a) = true) :
    (modifyAll p f rows).filter r = modifyAll p f (rows.filter r) := by
  induction rows with
  | nil => rfl
  | cons a rows ih =>
    rw [modifyAll] at ih ⊢
    cases hp : p a with
    | true => simp [modifyAll, hp, hr a hp, ih]
    | false => cases hra : r a <;> simp [modifyAll, hp, hra, ih]

theorem getElem?_modifyAll {a : α} {i : Nat} (ha : rows[i]? = some a) (hp : p a = false) :
    (modifyAll p f rows)[i]? = some a := by
  simp [modifyAll, ha, hp]

/-- In rows that differ in what is looked at, a row is found by it. -/
theorem find?_of_mem [DecidableEq β] {view : α → β} (h : (rows.map view).Nodup) {a : α}
    (ha : a ∈ rows) : rows.find? (fun b => view b = view a) = some a := by
  obtain ⟨before, after, rfl⟩ := List.append_of_mem ha
  simp only [List.map_append, List.map_cons, List.nodup_append, List.nodup_cons] at h
  have hnone : before.find? (fun b => view b = view a) = none := by
    refine List.find?_eq_none.2 fun other hother => ?_
    simpa using h.2.2 (view other) (List.mem_map_of_mem hother) (view a) (by simp)
  simp [List.find?_append, hnone]

/-- Tables that have the same rows of each kind have the same rows. -/
theorem perm_of_filter_eq [DecidableEq α] [DecidableEq β] {rows' : List α} {view : α → β}
    (h : ∀ b, rows.filter (view · = b) = rows'.filter (view · = b)) : rows.Perm rows' := by
  refine List.perm_iff_count.2 fun a => ?_
  have hcount (l : List α) : (l.filter (view · = view a)).count a = l.count a :=
    List.count_filter (by simp)
  rw [← hcount rows, ← hcount rows', h]

theorem nodup_map_append {view : α → β} {a : α} (h : (rows.map view).Nodup)
    (ha : view a ∉ rows.map view) : ((rows ++ [a]).map view).Nodup := by
  rw [List.map_append, List.map_singleton, ← List.concat_eq_append]
  exact h.concat ha

end ModifyFirst

/-! ## Jobs -/

variable {t : Tables}

theorem id_of_job? {id : Uuid} {job : Job} (h : t.job? id = some job) : job.id = id := by
  simpa using List.find?_some h

theorem mem_of_job? {id : Uuid} {job : Job} (h : t.job? id = some job) : job ∈ t.jobs :=
  List.mem_of_find?_eq_some h

/-- What is found depends on the rows of jobs only. -/
theorem job?_congr {t t' : Tables} (h : t'.jobs = t.jobs) (id : Uuid) : t'.job? id = t.job? id := by
  rw [job?, job?, h]

theorem job?_modifyJob {f : Job → Job} (hf : ∀ job, (f job).id = job.id) (id id' : Uuid) :
    (t.modifyJob id f).job? id' = if id' = id then (t.job? id).map f else t.job? id' := by
  by_cases h : id' = id
  · subst h
    rw [if_pos rfl]
    exact find?_modifyFirst_self fun a ha => by simpa [hf] using ha
  · rw [if_neg h]
    refine find?_modifyFirst_of_disjoint fun a ha => ?_
    obtain rfl : a.id = id := by simpa using ha
    simp [hf, Ne.symm h]

theorem job?_insertJob (job : Job) (id : Uuid) :
    (t.insertJob job).job? id = (t.job? id).or (if job.id = id then some job else none) := by
  by_cases h : job.id = id <;> simp [job?, insertJob, List.find?_append, h]

/-- A row that is there stays when another one is added. -/
theorem job?_insertJob_of_some {job row : Job} {id : Uuid} (h : t.job? id = some row) :
    (t.insertJob job).job? id = some row := by
  rw [job?_insertJob, h, Option.some_or]

/-- A job with a new identifier leaves the identifiers all different. -/
theorem nodup_insertJob (ht : (t.jobs.map (·.id)).Nodup) {job : Job} (h : t.job? job.id = none) :
    ((t.insertJob job).jobs.map (·.id)).Nodup :=
  nodup_map_append ht fun hmem => by
    obtain ⟨row, hrow, heq⟩ := List.mem_map.1 hmem
    simpa [heq] using List.find?_eq_none.1 h row hrow

/-- With identifiers that are all different, a row is found under its identifier. -/
theorem job?_of_mem (ht : (t.jobs.map (·.id)).Nodup) {job : Job} (h : job ∈ t.jobs) :
    t.job? job.id = some job :=
  find?_of_mem ht h

/-- A job that can be added has a new key and a new identifier. -/
theorem conflict?_eq_none {job : Job} (h : t.conflict? job = none) :
    (∀ key, job.idempotencyKey = some key → t.jobByKey? key = none) ∧ t.job? job.id = none := by
  unfold conflict? at h
  split at h
  · cases h
  · rename_i hkey
    split at h
    · cases h
    · rename_i hid
      refine ⟨fun key hjob => ?_, by simpa using hid⟩
      simpa [hjob] using hkey

/-- The identifiers of the jobs with the keys that they carry. -/
def keys (t : Tables) : List (Uuid × Option String) :=
  t.jobs.map fun job => (job.id, job.idempotencyKey)

theorem keys_congr {t t' : Tables} (h : t'.jobs = t.jobs) : t'.keys = t.keys := by
  rw [keys, keys, h]

/-- Which job carries a key depends only on the keys and identifiers of the rows. -/
theorem jobByKey?_map_id (t : Tables) (key : String) :
    (t.jobByKey? key).map (·.id) = (t.keys.find? (·.2 = some key)).map (·.1) := by
  rw [keys, List.find?_map, Option.map_map]
  rfl

theorem jobByKey?_insertJob (job : Job) (key : String) :
    (t.insertJob job).jobByKey? key =
      (t.jobByKey? key).or (if job.idempotencyKey = some key then some job else none) := by
  by_cases h : job.idempotencyKey = some key <;> simp [jobByKey?, insertJob, List.find?_append, h]

/-- A job that carries a key is found under it, or another one is. -/
theorem jobByKey?_ne_none {key : String} {job : Job} (h : job ∈ t.jobs)
    (hkey : job.idempotencyKey = some key) : t.jobByKey? key ≠ none := by
  intro hnone
  simpa [hkey] using List.find?_eq_none.1 hnone job h

/-! ## Writing one row -/

/-- The row of a job has been written, and no other one. -/
structure Rewrites (t : Tables) (id : Uuid) (write : Job → Job) (t' : Tables) : Prop where
  jobs : t'.jobs = (t.modifyJob id write).jobs
  id_eq : ∀ row, (write row).id = row.id

namespace Rewrites

variable {t' : Tables} {id id' : Uuid} {write : Job → Job} {job : Job}

/-- What is found after the write. -/
theorem job?_eq (h : t.Rewrites id write t') (id' : Uuid) :
    t'.job? id' = if id' = id then (t.job? id).map write else t.job? id' := by
  rw [job?_congr h.jobs, job?_modifyJob h.id_eq]

theorem job?_self (h : t.Rewrites job.id write t') (hrow : t.job? job.id = some job) :
    t'.job? job.id = some (write job) := by
  rw [h.job?_eq, if_pos rfl, hrow, Option.map_some]

theorem job?_of_ne (h : t.Rewrites id write t') (hne : id' ≠ id) : t'.job? id' = t.job? id' := by
  rw [h.job?_eq, if_neg hne]

theorem job?_of_none (h : t.Rewrites id write t') (hnone : t.job? id' = none) :
    t'.job? id' = none := by
  rw [h.job?_eq]
  split
  · rename_i heq
    rw [← heq, hnone, Option.map_none]
  · exact hnone

theorem ids (h : t.Rewrites id write t') : t'.jobs.map (·.id) = t.jobs.map (·.id) := by
  rw [h.jobs]
  exact map_modifyFirst fun a _ => h.id_eq a

/-- A row after the write was there before, or it is the written one. -/
theorem mem (h : t.Rewrites id write t') (hjob : job ∈ t'.jobs) :
    job ∈ t.jobs ∨ ∃ row, t.job? id = some row ∧ job = write row := by
  rw [h.jobs] at hjob
  exact mem_modifyFirst hjob

/-- The write takes place where the row is. -/
theorem split (h : t.Rewrites id write t') (hrow : t.job? id = some job) :
    ∃ before after, t.jobs = before ++ job :: after ∧ t'.jobs = before ++ write job :: after := by
  obtain ⟨before, after, hbefore, hafter⟩ := modifyFirst_split hrow
  exact ⟨before, after, hbefore, h.jobs.trans (hafter write)⟩

theorem keys (h : t.Rewrites id write t')
    (hkey : ∀ row, (write row).idempotencyKey = row.idempotencyKey) : t'.keys = t.keys := by
  rw [Tables.keys, h.jobs]
  exact map_modifyFirst fun a _ => Prod.ext (h.id_eq a) (hkey a)

end Rewrites

/-! ## Statistics rows -/

theorem key_of_stat? {key : SyncKey} {stat : FailureStat} (h : t.stat? key = some stat) :
    stat.key = key := by
  simpa using List.find?_some h

/-- With keys that are all different, a row is found under its key. -/
theorem stat?_of_mem (ht : (t.stats.map (·.key)).Nodup) {stat : FailureStat} (h : stat ∈ t.stats) :
    t.stat? stat.key = some stat :=
  find?_of_mem ht h

theorem stat?_modifyStat {f : FailureStat → FailureStat} (hf : ∀ stat, (f stat).key = stat.key)
    (key key' : SyncKey) :
    (t.modifyStat key f).stat? key' =
      if key' = key then (t.stat? key).map f else t.stat? key' := by
  by_cases h : key' = key
  · subst h
    rw [if_pos rfl]
    exact find?_modifyFirst_self fun a ha => by simpa [hf] using ha
  · rw [if_neg h]
    refine find?_modifyFirst_of_disjoint fun a ha => ?_
    obtain rfl : a.key = key := by simpa using ha
    simp [hf, Ne.symm h]

theorem stat?_insertStat (stat : FailureStat) (key : SyncKey) :
    (t.insertStat stat).stat? key =
      (t.stat? key).or (if stat.key = key then some stat else none) := by
  by_cases h : stat.key = key <;> simp [stat?, insertStat, List.find?_append, h]

end Tables

end SyncQueue
