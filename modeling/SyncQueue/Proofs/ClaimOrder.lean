import SyncQueue.Proofs.Pauses

/-!
# Which job is claimed

The store compares instants by their texts, and finds a pause by looking through all statistics
rows. For years of four digits and keys that are all different this is the order of time and a look
at one row. The job that is claimed next is then the head of a queue: of the eligible jobs, sorted
by priority and by due time, as long as no two of them agree in both.

* `Tables.isPausedAt_eq`: the pause of a key, said through its row.
* `FailureStat.isPaused_afterFailure`: a failure pauses a key exactly if its count has reached the
  threshold.
* `Backoff.lt_nextRunAt`: a job that failed is due later than now.
* `Tables.queueAt`: the queue.
* `Tables.best?_of_first`: its head is claimed next.
-/

namespace SyncQueue

open Time (Instant)

variable {now : Instant}

/-! ## Times to come -/

namespace Time.Instant

theorem inRange_of_fourDigits {t : Instant} (h : t.hasFourDigitYear) : t.inRange := by
  simp only [hasFourDigitYear, Bool.and_eq_true, decide_eq_true_eq] at h
  have hfirst : first.rank ≤ startOfYear0.rank := by decide
  have hlast : startOfYear10000.second ≤ last.second := by decide
  have hsecond : t.second ≤ startOfYear10000.second :=
    Int.ediv_le_ediv (by decide) (Int.le_of_lt h.2)
  simp only [inRange, Bool.and_eq_true, decide_eq_true_eq]
  exact ⟨Int.le_trans hfirst h.1, Int.le_trans hsecond hlast⟩

theorem add?_of_fourDigits {t : Instant} {d : Delta} (h : (t.shifted d).hasFourDigitYear) :
    t.add? d = some (t.shifted d) := by
  rw [add?, if_pos (inRange_of_fourDigits h)]

/-- A minute after the start of 1970 the year still has four digits. -/
theorem moved_start {ms : Nat} (h : ms ≤ 60000) : (moved ⟨0⟩ ms).hasFourDigitYear := by
  have hrank : (moved ⟨0⟩ ms).rank =
      (ms : Int) * 1000000 / 1000000000 * 2000000000 + (ms : Int) * 1000000 % 1000000000 := by
    change (0 + (ms : Int) * 1000000) / 1000000000 * 2000000000 +
      (0 + (ms : Int) * 1000000) % 1000000000 = _
    rw [Int.zero_add]
  have hbounds : -124334438400000000000 ≤ (moved ⟨0⟩ ms).rank ∧
      (moved ⟨0⟩ ms).rank < 506804601600000000000 := by
    omega
  simp only [hasFourDigitYear, Bool.and_eq_true, decide_eq_true_eq]
  exact hbounds

/-- A span between years of four digits is not too long to be added. -/
theorem le_maxSpanMillis {t : Instant} {ms : Nat} (ht : t.hasFourDigitYear)
    (h : (t.moved ms).hasFourDigitYear) : ms ≤ maxSpanMillis := by
  simp only [hasFourDigitYear, Bool.and_eq_true, decide_eq_true_eq] at ht h
  have hstart : -124334438400000000000 ≤ t.rank := ht.1
  have hend : (t.moved ms).rank < 506804601600000000000 := h.2
  have hnanosecond : t.nanosecond = (t.rank % 2000000000).toNat := rfl
  have hnanos : t.nanos = t.rank / 2000000000 * 1000000000 + t.nanosecond := rfl
  have hspan : (ms : Int) * nanosPerMilli = ms * 1000000 := rfl
  have hmax : maxSpanMillis = 9223372036854775807 := rfl
  have hrank : ∀ x : Int, (ofNanos x).rank = x / 1000000000 * 2000000000 + x % 1000000000 :=
    fun _ => rfl
  by_contra hlong
  -- whichever way the end of the span is computed, it lies long after the year 9999
  unfold moved shifted at hend
  simp only [Delta.ofMillis, hspan, nanosPerSecond, ranksPerSecond] at hend
  split at hend
  · rw [hrank] at hend
    omega
  · split at hend
    · change t.rank + (ms : Int) * 1000000 < 506804601600000000000 at hend
      omega
    · rw [hrank] at hend
      omega

end Time.Instant

/-- A pause that ends in a year of four digits. -/
theorem Breaker.pauseEnd_of_fourDigits {policy : BreakerPolicy}
    (h : (now.shifted policy.pause).hasFourDigitYear) :
    pauseEnd policy now = now.shifted policy.pause := by
  rw [pauseEnd, Instant.add?_of_fourDigits h, Option.getD_some]

/-- **A delay** that is not empty makes a job due later than now. -/
theorem Backoff.lt_nextRunAt {b : Backoff} {n word : Nat} (hdelay : 0 < b.delayMillis n word)
    (hnow : now.hasFourDigitYear) (hyear : (now.moved (b.delayMillis n word)).hasFourDigitYear) :
    now < b.nextRunAt n now word ∧ (b.nextRunAt n now word).hasFourDigitYear := by
  have hdue : b.nextRunAt n now word = now.moved (b.delayMillis n word) := by
    rw [nextRunAt, after, if_pos (Instant.le_maxSpanMillis hnow hyear),
      Instant.addMillis?, Instant.add?_of_fourDigits hyear, Option.getD_some]
    rfl
  rw [hdue]
  exact ⟨Instant.lt_moved (Int.natCast_pos.2 hdelay) now, hyear⟩

theorem Backoff.one_le_baseMinutes (n : Nat) : 1 ≤ baseMinutes n := by
  have hfirst : ∀ minutes ∈ firstMinutes, 1 ≤ minutes := by decide
  unfold baseMinutes
  dsimp only
  split
  · rename_i minutes hminutes
    exact hfirst minutes (List.mem_of_getElem? hminutes)
  · split
    · exact Nat.one_le_two_pow
    · decide

theorem Backoff.cappedMillis_pos {b : Backoff} (hcap : 0 < b.cap.millis) (n : Nat) :
    0 < b.cappedMillis n := by
  have hbase := one_le_baseMinutes n
  have hmax : 0 < maxMillis := by decide
  unfold cappedMillis
  omega

/-! ## Pauses -/

namespace FailureStat

variable {policy : BreakerPolicy} {stat : FailureStat}

/-- The store sees a pause as the row says it. -/
theorem any_storedLt (hnow : now.hasFourDigitYear)
    (hyear : stat.pausedUntil.all (·.hasFourDigitYear) = true) :
    stat.pausedUntil.any now.storedLt = stat.isPaused now := by
  unfold isPaused
  cases hpaused : stat.pausedUntil with
  | none => rfl
  | some until_ =>
    rw [hpaused, Option.all_some] at hyear
    simp [Instant.storedLt_of_fourDigits hnow hyear]

/-- **After a failure** a key that was not paused is paused exactly if its count has reached the
threshold. -/
theorem isPaused_afterFailure (hlater : now < Breaker.pauseEnd policy now)
    (hfree : stat.isPaused now = false) (n : Int) :
    (stat.afterFailure policy n now).isPaused now =
      decide (policy.threshold ≤ stat.failuresAfter n) := by
  have hopens : stat.opens policy n now ↔ policy.threshold ≤ stat.failuresAfter n := by
    rw [opens_iff]
    exact and_iff_left (isPaused_eq_false_iff.1 hfree)
  by_cases hreached : policy.threshold ≤ stat.failuresAfter n
  · rw [isPaused, pausedUntil_of_opens (hopens.2 hreached)]
    simp [hreached, hlater]
  · rw [isPaused, pausedUntil_of_not_opens (mt hopens.1 hreached), decide_eq_false hreached]
    exact hfree

end FailureStat

namespace Tables

variable {t : Tables}

/-- **The pause of a key** is that of its row. -/
theorem isPausedAt_eq (hkeys : (t.stats.map (·.key)).Nodup) (hdated : t.PausesDated)
    (hnow : now.hasFourDigitYear) (key : SyncKey) :
    t.isPausedAt key now = (t.stat? key).any (·.isPaused now) := by
  have hrow : ∀ stat ∈ t.stats, stat.pausedUntil.any now.storedLt = stat.isPaused now :=
    fun stat hmem => FailureStat.any_storedLt hnow (hdated stat hmem)
  rw [Bool.eq_iff_iff, isPausedAt, List.any_eq_true, Option.any_eq_true]
  constructor
  · rintro ⟨stat, hmem, hpaused⟩
    simp only [Bool.and_eq_true, decide_eq_true_eq] at hpaused
    obtain ⟨rfl, hpaused⟩ := hpaused
    exact ⟨stat, stat?_of_mem hkeys hmem, (hrow stat hmem).symm.trans hpaused⟩
  · rintro ⟨stat, hfound, hpaused⟩
    have hmem : stat ∈ t.stats := List.mem_of_find?_eq_some hfound
    refine ⟨stat, hmem, ?_⟩
    rw [hrow stat hmem, hpaused, key_of_stat? hfound]
    simp

end Tables

/-! ## The queue -/

namespace Job

/-- The job is claimable and due. -/
def isDue (now : Instant) (job : Job) : Bool :=
  job.status.isClaimable && job.nextRunAt.storedLe now

/-- The job comes first: its priority is higher, or it is the same and the job is not due later. -/
def goesBefore (a b : Job) : Bool :=
  decide (b.priority < a.priority) ||
    (decide (a.priority = b.priority) && decide (a.nextRunAt ≤ b.nextRunAt))

theorem goesBefore_iff {a b : Job} :
    a.goesBefore b ↔
      b.priority < a.priority ∨ a.priority = b.priority ∧ a.nextRunAt.rank ≤ b.nextRunAt.rank := by
  simp only [goesBefore, Bool.or_eq_true, Bool.and_eq_true, decide_eq_true_eq]
  rfl

theorem goesBefore_trans (a b c : Job) (hab : a.goesBefore b) (hbc : b.goesBefore c) :
    a.goesBefore c := by
  rw [goesBefore_iff] at *
  omega

theorem goesBefore_total (a b : Job) : (a.goesBefore b || b.goesBefore a) = true := by
  rw [Bool.or_eq_true, goesBefore_iff, goesBefore_iff]
  omega

/-- Two jobs agree neither in priority nor in due time. -/
def Differs (a b : Job) : Prop := a.priority = b.priority → a.nextRunAt ≠ b.nextRunAt

instance (a b : Job) : Decidable (a.Differs b) :=
  inferInstanceAs (Decidable (a.priority = b.priority → a.nextRunAt ≠ b.nextRunAt))

/-- Of two jobs that differ, the one that comes first is claimed before the other one. -/
theorem claimedBefore_of_goesBefore {a b : Job} (ha : a.nextRunAt.hasFourDigitYear)
    (hb : b.nextRunAt.hasFourDigitYear) (hdiffers : a.Differs b) (h : a.goesBefore b) :
    Tables.claimedBefore a b ∧ Tables.claimedBefore b a = false := by
  have hrank : a.priority = b.priority → a.nextRunAt.rank ≠ b.nextRunAt.rank :=
    fun hpriority heq => hdiffers hpriority (congrArg Instant.mk heq)
  have hlt : ∀ x y : Instant, x < y ↔ x.rank < y.rank := fun _ _ => Iff.rfl
  rw [goesBefore_iff] at h
  rw [← Bool.not_eq_true]
  simp only [Tables.claimedBefore, Instant.storedLt_of_fourDigits ha hb,
    Instant.storedLt_of_fourDigits hb ha, Bool.or_eq_true, Bool.and_eq_true, decide_eq_true_eq, hlt]
  omega

end Job

namespace Tables

variable {t : Tables}

theorem isEligible_eq (t : Tables) (now : Instant) (job : Job) :
    t.isEligible now job = (job.isDue now && !t.isPausedAt job.key now) := rfl

/-- A row that comes before all others is found first. -/
theorem first?_eq_some {α : Type} {before : α → α → Bool} {rows : List α} {a : α} (ha : a ∈ rows)
    (hfirst : ∀ b ∈ rows, b ≠ a → before a b = true ∧ before b a = false) :
    first? before rows = some a := by
  induction rows with
  | nil => cases ha
  | cons c rows ih =>
    simp only [first?]
    by_cases hc : c = a
    · subst hc
      cases hrest : first? before rows with
      | none => rfl
      | some b =>
        by_cases hb : b = c
        · simp [hb]
        · simp [(hfirst b (List.mem_cons_of_mem _ (mem_of_first? hrest)) hb).2]
    · have hmem : a ∈ rows := (List.mem_cons.1 ha).resolve_left (Ne.symm hc)
      rw [ih hmem fun b hb => hfirst b (List.mem_cons_of_mem _ hb)]
      simp [(hfirst c List.mem_cons_self hc).1]

/-- The eligible jobs, by priority and then by due time. -/
def queueAt (t : Tables) (now : Instant) : List Job :=
  (t.jobs.filter (t.isEligible now)).mergeSort Job.goesBefore

theorem mem_queueAt {job : Job} : job ∈ t.queueAt now ↔ job ∈ t.jobs ∧ t.isEligible now job := by
  rw [queueAt, (List.mergeSort_perm _ _).mem_iff, List.mem_filter]

/-- **The queue** lists jobs in the order in which they are claimed, if no two of them agree in
priority and due time. -/
theorem queueAt_pairwise (hdue : ∀ job ∈ t.jobs, job.nextRunAt.hasFourDigitYear)
    (hdiffer : (t.jobs.filter (t.isEligible now)).Pairwise Job.Differs) :
    (t.queueAt now).Pairwise fun a b => claimedBefore a b ∧ claimedBefore b a = false := by
  have hperm : (t.queueAt now).Perm (t.jobs.filter (t.isEligible now)) := List.mergeSort_perm _ _
  have hsorted : (t.queueAt now).Pairwise fun a b => a.goesBefore b :=
    List.pairwise_mergeSort Job.goesBefore_trans Job.goesBefore_total _
  have hapart : (t.queueAt now).Pairwise Job.Differs :=
    hperm.symm.pairwise hdiffer fun h hpriority heq => h hpriority.symm heq.symm
  refine (hsorted.and hapart).imp_of_mem fun ha hb h => ?_
  exact Job.claimedBefore_of_goesBefore (hdue _ (mem_queueAt.1 ha).1) (hdue _ (mem_queueAt.1 hb).1)
    h.2 h.1

theorem nodup_queueAt (hids : (t.jobs.map (·.id)).Nodup) :
    ((t.queueAt now).map (·.id)).Nodup := by
  have hperm : (t.queueAt now).Perm (t.jobs.filter (t.isEligible now)) := List.mergeSort_perm _ _
  rw [(hperm.map _).nodup_iff]
  exact hids.sublist (List.filter_sublist.map _)

/-- **The next job**: an eligible job that comes before all other eligible ones. -/
theorem best?_of_first {job : Job} (hjob : job ∈ t.jobs ∧ t.isEligible now job)
    (hfirst : ∀ other ∈ t.jobs, t.isEligible now other → other ≠ job →
      claimedBefore job other ∧ claimedBefore other job = false) :
    t.best? now = some job := by
  refine first?_eq_some (List.mem_filter.2 hjob) fun other hother hne => ?_
  obtain ⟨hmem, heligible⟩ := List.mem_filter.1 hother
  exact hfirst other hmem heligible hne

theorem best?_eq_none : t.best? now = none ↔ ∀ job ∈ t.jobs, t.isEligible now job = false := by
  rw [best?, first?_eq_none, List.filter_eq_nil_iff]
  simp only [Bool.not_eq_true]

end Tables

end SyncQueue
