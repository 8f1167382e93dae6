import Mathlib.Algebra.Group.Nat.Defs
import SyncQueue.Proofs.ClaimOrder

/-!
# Delays without chance

The delay of an attempt is computed in four ways: by a table, by a shift, by the largest number when
the shift would lose bits, and held at the largest number when the product with the length of a
minute leaves 64 bits. Without chance all of them are one formula, the doubled minute under a cap.
The instant at which a job is due goes past two more limits, that of a span of time and that of the
calendar; both have the same consequence.

* `Time.Instant.moved_cases`: the instant after a span, by the second that it begins in.
* `Backoff.cappedMillis_eq`: the delay before chance moves it.
* `Backoff.nextRunAt_eq`: the instant after a delay, or now if there is no such instant.
* `Backoff.doubles`: the delay of an attempt and the time at which the job is due.
-/

namespace SyncQueue

open Time (Instant)

/-! ## Spans on the time line -/

namespace Time.Instant

variable {t : Instant} {ms ms' : Nat}

theorem rank_ofNanos (x : Int) :
    (ofNanos x).rank = x / 1000000000 * 2000000000 + x % 1000000000 := rfl

/-- Where a span leads: outside of leap seconds to the nanosecond counted from 1970; within a leap
second as long as it lasts; and beyond it as from the second before. -/
theorem moved_cases (t : Instant) (ms : Nat) :
    t.rank % 2000000000 < 1000000000 ∧ t.moved ms = ofNanos (t.nanos + ms * 1000000) ∨
    1000000000 ≤ t.rank % 2000000000 ∧ t.rank % 2000000000 + ms * 1000000 < 2000000000 ∧
      t.moved ms = ⟨t.rank + ms * 1000000⟩ ∨
    1000000000 ≤ t.rank % 2000000000 ∧ 2000000000 ≤ t.rank % 2000000000 + ms * 1000000 ∧
      t.moved ms = ofNanos (t.nanos - 1000000000 + ms * 1000000) := by
  have hnanosecond : (t.nanosecond : Int) = t.rank % 2000000000 :=
    Int.toNat_of_nonneg (Int.emod_nonneg _ (by decide))
  have hspan : (ms : Int) * nanosPerMilli = ms * 1000000 := rfl
  have hleap := t.isLeap_iff
  rw [hnanosecond] at hleap
  unfold moved shifted
  simp only [Bool.or_eq_true, Bool.and_eq_true, Bool.not_eq_true', decide_eq_true_eq]
  simp only [Delta.ofMillis, hspan, hnanosecond, nanosPerSecond, ranksPerSecond]
  cases hcase : t.isLeap with
  | false =>
    have hbefore : t.rank % 2000000000 < 1000000000 := by
      simpa [hcase] using hleap
    exact .inl ⟨hbefore, if_pos (.inl rfl)⟩
  | true =>
    have hafter := hleap.1 hcase
    have hforward : ¬(true = false ∨ (ms : Int) * 1000000 ≤ -1000000000) := by
      simp only [Bool.true_eq_false, false_or]
      omega
    rw [if_neg hforward]
    split
    · rename_i hshort
      exact .inr (.inl ⟨hafter, hshort.2, rfl⟩)
    · rename_i hlong
      exact .inr (.inr ⟨hafter, by omega, rfl⟩)

theorem nanos_eq (t : Instant) :
    t.nanos = t.rank / 2000000000 * 1000000000 + t.rank % 2000000000 := by
  have hnanosecond : (t.nanosecond : Int) = t.rank % 2000000000 :=
    Int.toNat_of_nonneg (Int.emod_nonneg _ (by decide))
  rw [← hnanosecond]
  rfl

/-- A longer span leads further. -/
theorem moved_mono (t : Instant) (h : ms ≤ ms') : t.moved ms ≤ t.moved ms' := by
  change (t.moved ms).rank ≤ (t.moved ms').rank
  have hnanos := t.nanos_eq
  obtain ⟨hs, hm⟩ | ⟨hs, he, hm⟩ | ⟨hs, he, hm⟩ := t.moved_cases ms <;>
    obtain ⟨hs', hm'⟩ | ⟨hs', he', hm'⟩ | ⟨hs', he', hm'⟩ := t.moved_cases ms' <;>
    simp only [hm, hm', rank_ofNanos] <;> omega

theorem moved_zero (t : Instant) : t.moved 0 = t := by
  have hnanos := t.nanos_eq
  have hrank : (t.moved (0 : Nat)).rank = t.rank := by
    obtain ⟨hs, hm⟩ | ⟨hs, he, hm⟩ | ⟨hs, he, hm⟩ := t.moved_cases 0 <;>
      simp only [hm, rank_ofNanos] <;> omega
  exact congrArg Instant.mk hrank

theorem le_moved (t : Instant) (ms : Nat) : t ≤ t.moved ms := by
  have h := t.moved_mono (Nat.zero_le ms)
  rwa [show ((0 : Nat) : Int) = 0 from rfl, moved_zero] at h

theorem inRange_iff : t.inRange ↔ first ≤ t ∧ t.second ≤ last.second := by
  rw [inRange, Bool.and_eq_true, decide_eq_true_eq, decide_eq_true_eq]

/-- A span that does not lead past the last instant can be added. -/
theorem addMillis?_of_le_last (hfirst : first ≤ t) (hlast : t.moved ms ≤ last) :
    t.addMillis? ms = some (t.moved ms) := by
  refine if_pos (inRange_iff.2 ⟨Int.le_trans hfirst (t.le_moved ms), ?_⟩)
  exact Int.ediv_le_ediv (by decide) hlast

/-- A span of time that is too long leads past the last instant, wherever it begins. -/
theorem addMillis?_of_long (hfirst : first ≤ t) (hlong : maxSpanMillis < ms) :
    t.addMillis? ms = none := by
  have hstart : -16669202457600000000000 ≤ t.rank := hfirst
  have hmax : maxSpanMillis = 9223372036854775807 := rfl
  have hend : last.second = 8210266876799 := rfl
  have hsecond : (t.moved ms).second = (t.moved ms).rank / 2000000000 := rfl
  have hnanos := t.nanos_eq
  have hpast : ¬(t.moved ms).second ≤ last.second := by
    rw [hsecond, hend]
    obtain ⟨hs, hm⟩ | ⟨hs, he, hm⟩ | ⟨hs, he, hm⟩ := t.moved_cases ms <;>
      simp only [hm, rank_ofNanos] <;> omega
  exact if_neg fun h => hpast (inRange_iff.1 h).2

/-- Outside of leap seconds a span leads to the nanosecond counted from 1970, if there still is
one. -/
theorem addMillis?_of_not_isLeap (hrange : t.inRange) (hleap : t.isLeap = false) (ms : Nat) :
    t.addMillis? ms = if t.nanos + ms * 1000000 ≤ last.nanos then
      some (ofNanos (t.nanos + ms * 1000000)) else none := by
  obtain ⟨hfirst, -⟩ := inRange_iff.1 hrange
  have hstart : -16669202457600000000000 ≤ t.rank := hfirst
  have hnanosecond : ¬1000000000 ≤ (t.nanosecond : Int) := by
    rw [← isLeap_iff, hleap]
    exact Bool.false_ne_true
  have hrank : (t.nanosecond : Int) = t.rank % 2000000000 :=
    Int.toNat_of_nonneg (Int.emod_nonneg _ (by decide))
  have hend : last.nanos = 8210266876799999999999 := rfl
  have hsecond : last.second = 8210266876799 := rfl
  have hnanos := t.nanos_eq
  have hmoved : t.moved ms = ofNanos (t.nanos + ms * 1000000) := by
    obtain ⟨hs, hm⟩ | ⟨hs, he, hm⟩ | ⟨hs, he, hm⟩ := t.moved_cases ms
    · exact hm
    · omega
    · omega
  have hbegin : (first : Instant).rank = -16669202457600000000000 := rfl
  have hinRange : (t.moved ms).inRange ↔ t.nanos + ms * 1000000 ≤ last.nanos := by
    rw [inRange_iff, hmoved, hend, hsecond]
    change first.rank ≤ (ofNanos _).rank ∧ (ofNanos _).rank / 2000000000 ≤ _ ↔ _
    rw [hbegin, rank_ofNanos]
    omega
  rw [hmoved] at hinRange
  change (if (t.moved ms).inRange then some (t.moved ms) else none) = _
  rw [hmoved]
  simp only [hinRange]

end Time.Instant

/-! ## The delay -/

/-- A span in nanoseconds. -/
def Span.totalNanos (s : Span) : Nat := s.seconds * 1000000000 + s.nanos

theorem Span.millis_eq (s : Span) : s.millis = min (s.totalNanos / 1000000) (2 ^ 64 - 1) := by
  have hmax : maxMillis = 2 ^ 64 - 1 := rfl
  rw [millis, totalNanos, hmax]
  omega

namespace Backoff

variable {b b' : Backoff}

theorem firstMinutes_getElem? {n : Nat} (h : n < 5) : firstMinutes[n]? = some (2 ^ n) := by
  have hall : ∀ n < 5, firstMinutes[n]? = some (2 ^ n) := by decide
  exact hall n h

/-- The table, the shift and what stands for a shift that loses bits. -/
theorem baseMinutes_eq (attempt : Nat) :
    baseMinutes attempt =
      if max attempt 1 - 1 < 64 then 2 ^ (max attempt 1 - 1) else 2 ^ 64 - 1 := by
  unfold baseMinutes
  dsimp only
  generalize max attempt 1 - 1 = n
  by_cases htable : n < 5
  · simp only [firstMinutes_getElem? htable]
    rw [if_pos (by omega)]
  · have hnone : firstMinutes[n]? = none := List.getElem?_eq_none (Nat.not_lt.1 htable)
    rw [hnone]
    rfl

/-- **The delay before chance moves it** is a minute, doubled for each attempt before this one,
under the cap and the largest number. -/
theorem cappedMillis_eq (b : Backoff) (attempt : Nat) :
    b.cappedMillis attempt =
      min (min (60000 * 2 ^ (max attempt 1 - 1)) (b.cap.totalNanos / 1000000)) (2 ^ 64 - 1) := by
  have hmax : maxMillis = 2 ^ 64 - 1 := rfl
  have hbase : min (baseMinutes attempt * 60000) (2 ^ 64 - 1) =
      min (60000 * 2 ^ (max attempt 1 - 1)) (2 ^ 64 - 1) := by
    rw [baseMinutes_eq]
    split
    · rw [Nat.mul_comm]
    · rename_i hlong
      -- the shift would lose bits, and the product is too large as well
      have hpow : 2 ^ 64 ≤ 2 ^ (max attempt 1 - 1) :=
        Nat.pow_le_pow_right (by decide) (Nat.not_lt.1 hlong)
      omega
  rw [cappedMillis, Span.millis_eq, hmax, hbase]
  omega

theorem delayMillis_of_isZero (hratio : b.ratio.isZero) (attempt word : Nat) :
    b.delayMillis attempt word = b.cappedMillis attempt := by
  have hsteady : b.usesChance = false := by rw [usesChance, hratio, Bool.not_true]
  rw [delayMillis, hsteady]
  exact if_neg Bool.false_ne_true

/-- **Later attempts and larger caps** do not shorten a delay. -/
theorem cappedMillis_mono {attempt attempt' : Nat} (hattempt : attempt ≤ attempt')
    (hcap : b.cap.totalNanos ≤ b'.cap.totalNanos) :
    b.cappedMillis attempt ≤ b'.cappedMillis attempt' := by
  have hpow : 2 ^ (max attempt 1 - 1) ≤ 2 ^ (max attempt' 1 - 1) :=
    Nat.pow_le_pow_right (by decide) (by omega)
  have hmillis : b.cap.totalNanos / 1000000 ≤ b'.cap.totalNanos / 1000000 :=
    Nat.div_le_div_right hcap
  rw [cappedMillis_eq, cappedMillis_eq]
  omega

/-! ## The time at which a job is due -/

/-- A delay that is too long for a span of time is one that leads past the last instant. -/
theorem after_eq {t : Instant} (hfirst : Instant.first ≤ t) (ms : Nat) :
    after t ms = (t.addMillis? ms).getD t := by
  rw [after]
  split
  · rfl
  · rename_i hlong
    rw [Instant.addMillis?_of_long hfirst (Nat.not_le.1 hlong), Option.getD_none]

theorem nextRunAt_eq {now : Instant} (hfirst : Instant.first ≤ now) (attempt word : Nat) :
    b.nextRunAt attempt now word = (now.addMillis? (b.delayMillis attempt word)).getD now :=
  after_eq hfirst _

/-- **Delays without chance.** With a ratio of zero the delay of an attempt is a minute, doubled for
each attempt before this one, the zeroth counting as the first; but not more than the whole
milliseconds of the cap, nor than a number of 64 bits. It does not fall with the attempt or the cap.

The job is due after exactly this delay if there is such an instant, and otherwise at once. Outside
of leap seconds that is the instant so many nanoseconds later. -/
theorem doubles {now : Instant} (hratio : b.ratio.isZero) (hnow : now.inRange)
    (attempt word : Nat) :
    (b.delayMillis attempt word =
      min (min (60000 * 2 ^ (max attempt 1 - 1)) (b.cap.totalNanos / 1000000)) (2 ^ 64 - 1)) ∧
    (∀ (b' : Backoff) (attempt' word' : Nat), b'.ratio.isZero → attempt ≤ attempt' →
      b.cap.totalNanos ≤ b'.cap.totalNanos →
      b.delayMillis attempt word ≤ b'.delayMillis attempt' word') ∧
    (∀ due, now.addMillis? (b.delayMillis attempt word) = some due →
      b.nextRunAt attempt now word = due) ∧
    (now.addMillis? (b.delayMillis attempt word) = none →
      b.nextRunAt attempt now word = now) ∧
    (now.isLeap = false → b.nextRunAt attempt now word =
      if now.nanos + b.delayMillis attempt word * 1000000 ≤ Instant.last.nanos then
        .ofNanos (now.nanos + b.delayMillis attempt word * 1000000)
      else now) := by
  have hdue := nextRunAt_eq (b := b) (Instant.inRange_iff.1 hnow).1 attempt word
  refine ⟨?_, ?_, ?_, ?_, ?_⟩
  · rw [delayMillis_of_isZero hratio, cappedMillis_eq]
  · intro b' attempt' word' hratio' hattempt hcap
    rw [delayMillis_of_isZero hratio, delayMillis_of_isZero hratio']
    exact cappedMillis_mono hattempt hcap
  · intro due hsome
    rw [hdue, hsome, Option.getD_some]
  · intro hnone
    rw [hdue, hnone, Option.getD_none]
  · intro hleap
    rw [hdue, Instant.addMillis?_of_not_isLeap hnow hleap]
    split <;> rfl

/-- The longest cap does not come into play at the fiftieth attempt, whose delay is the first that
does not fit 64 bits. There is no instant so late. -/
theorem doubles_fiftieth :
    (⟨.zero true, ⟨18446744073709551615, 999999999⟩⟩ : Backoff).delayMillis 50 0 =
        18446744073709551615 ∧
      (⟨.zero true, ⟨18446744073709551615, 999999999⟩⟩ : Backoff).nextRunAt 50 ⟨0⟩ 0 = ⟨0⟩ := by
  obtain ⟨hdelay, -, -, hnone, -⟩ :=
    @doubles ⟨.zero true, ⟨18446744073709551615, 999999999⟩⟩ ⟨0⟩ (by decide) (by decide) 50 0
  have hmillis : (⟨.zero true, ⟨18446744073709551615, 999999999⟩⟩ : Backoff).delayMillis 50 0 =
      18446744073709551615 := by
    rw [hdelay]
    decide
  refine ⟨hmillis, hnone ?_⟩
  rw [hmillis]
  decide

end Backoff

end SyncQueue
