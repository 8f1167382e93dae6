import SyncQueue.Proofs.Doubling
import SyncQueue.Proofs.Profile
import SyncQueue.Settings.Plan

/-!
# Accepted settings

Settings that loading accepts keep ten bounds. These are what everything after it relies on: that
the settings can be turned into spans and policies at all, that clocks tick, that a failed job waits
for a time that exists, and that a pause ends when it should.

* `Settings.Bounded`, `Settings.validate_eq_ok_iff`: the bounds, all of them kept.
* `Settings.Fits`: what numbers can be set at all.
* `Time.Instant.addMillis?_of_weeks`: a span of some weeks can be added to an instant that is as
  long before the last one.
* `Settings.Bounded.workerPlan?_eq`: the plan of a worker.
* `Settings.accepted_safe`: what loaded settings lead to.
-/

namespace SyncQueue

open EnvFile (Environment)
open Files (FileContent)
open Number (Binary64)
open Time (Delta Instant)

/-! ## The bounds -/

/-- The bounds of the settings of a worker. -/
structure WorkerSettings.Bounded (s : WorkerSettings) : Prop where
  pollInterval : 100 ≤ s.pollIntervalMillis ∧ s.pollIntervalMillis ≤ 300000
  heartbeatInterval : 1 ≤ s.heartbeatIntervalSeconds ∧ s.heartbeatIntervalSeconds ≤ 3600
  shutdownPoll : 1 ≤ s.shutdownPollMillis ∧ s.shutdownPollMillis ≤ 1000

/-- The bounds of the settings of retries. -/
structure RetrySettings.Bounded (s : RetrySettings) : Prop where
  jitterRatio : (Binary64.ofNat 0).le s.jitterRatio ∧ s.jitterRatio.le (.ofNat 1)
  maxDelay : 1 ≤ s.maxDelayMinutes ∧ s.maxDelayMinutes ≤ 10080
  defaultMaxRetries : 1 ≤ s.defaultMaxRetries

/-- The bounds of the settings of the circuit breaker. -/
structure BreakerSettings.Bounded (s : BreakerSettings) : Prop where
  failureThreshold : 1 ≤ s.failureThreshold
  pause : 1 ≤ s.pauseMinutes ∧ s.pauseMinutes ≤ 10080

/-- The bounds of all settings. -/
structure Settings.Bounded (s : Settings) : Prop where
  databaseUrl : Text.trim s.databaseUrl.toList ≠ []
  maxConnections : 1 ≤ s.maxConnections
  worker : s.worker.Bounded
  retry : s.retry.Bounded
  breaker : s.breaker.Bounded

/-- The numbers fit 64 bits. -/
structure WorkerSettings.Fits (s : WorkerSettings) : Prop where
  pollIntervalMillis : s.pollIntervalMillis ≤ Number.maxUnsigned 64
  heartbeatIntervalSeconds : s.heartbeatIntervalSeconds ≤ Number.maxUnsigned 64
  shutdownPollMillis : s.shutdownPollMillis ≤ Number.maxUnsigned 64

/-- The delay fits 64 bits, and the number of retries 32 with a sign. -/
structure RetrySettings.Fits (s : RetrySettings) : Prop where
  maxDelayMinutes : s.maxDelayMinutes ≤ Number.maxUnsigned 64
  defaultMaxRetries : Number.minSigned 32 ≤ s.defaultMaxRetries ∧
    s.defaultMaxRetries ≤ Number.maxSigned 32

/-- The threshold fits 32 bits, and the pause 64, both with a sign. -/
structure BreakerSettings.Fits (s : BreakerSettings) : Prop where
  failureThreshold : Number.minSigned 32 ≤ s.failureThreshold ∧
    s.failureThreshold ≤ Number.maxSigned 32
  pauseMinutes : Number.minSigned 64 ≤ s.pauseMinutes ∧ s.pauseMinutes ≤ Number.maxSigned 64

/-- Every number fits the bits that there are for it, be it within its bounds or not. -/
structure Settings.Fits (s : Settings) : Prop where
  maxConnections : s.maxConnections ≤ Number.maxUnsigned 32
  acquireTimeoutMillis : s.acquireTimeoutMillis ≤ Number.maxUnsigned 64
  worker : s.worker.Fits
  retry : s.retry.Fits
  breaker : s.breaker.Fits

theorem WorkerSettings.validate_eq_ok_iff {s : WorkerSettings} :
    s.validate = .ok () ↔ s.Bounded := by
  unfold validate
  constructor
  · intro h
    split_ifs at h with hpoll hheartbeat hshutdown
    simp only [Bool.not_eq_true, Bool.not_eq_false', Bool.and_eq_true, decide_eq_true_eq]
      at hpoll hheartbeat hshutdown
    exact ⟨hpoll, hheartbeat, hshutdown⟩
  · rintro ⟨hpoll, hheartbeat, hshutdown⟩
    simp [hpoll, hheartbeat, hshutdown]

theorem RetrySettings.validate_eq_ok_iff {s : RetrySettings} :
    s.validate = .ok () ↔ s.Bounded := by
  have hweek : maxWindowMinutes = 10080 := rfl
  unfold validate
  constructor
  · intro h
    split_ifs at h with hratio hdelay hretries
    simp only [Bool.not_eq_true, Bool.not_eq_false', Bool.and_eq_true, decide_eq_true_eq, hweek]
      at hratio hdelay
    exact ⟨hratio, hdelay, Int.not_lt.1 hretries⟩
  · rintro ⟨hratio, hdelay, hretries⟩
    simp [hratio, hdelay, hweek, Int.not_lt.2 hretries]

theorem BreakerSettings.validate_eq_ok_iff {s : BreakerSettings} :
    s.validate = .ok () ↔ s.Bounded := by
  have hweek : maxWindowMinutes = 10080 := rfl
  unfold validate
  constructor
  · intro h
    split_ifs at h with hthreshold hpause
    simp only [Bool.not_eq_true, Bool.not_eq_false', Bool.and_eq_true, decide_eq_true_eq, hweek]
      at hpause
    exact ⟨Int.not_lt.1 hthreshold, hpause⟩
  · rintro ⟨hthreshold, hpause⟩
    simp [hpause, hweek, Int.not_lt.2 hthreshold]

theorem seq_eq_ok {ε α : Type} {x : Except ε Unit} {y : Except ε α} {a : α} :
    (do x; y) = .ok a ↔ x = .ok () ∧ y = .ok a := by
  cases x <;> simp [bind, Except.bind]

theorem seq_eq_error {ε α : Type} {x : Except ε Unit} {y : Except ε α} {e : ε}
    (h : (do x; y) = .error e) : x = .error e ∨ y = .error e := by
  cases x with
  | error e => exact .inl (congrArg _ (Except.error.inj h))
  | ok => exact .inr h

/-- **Settings are accepted** exactly if they keep all bounds. -/
theorem Settings.validate_eq_ok_iff {s : Settings} : s.validate = .ok () ↔ s.Bounded := by
  have hparts : (do s.worker.validate; s.retry.validate; s.breaker.validate) =
      (.ok () : Except SettingsError Unit) ↔
        s.worker.Bounded ∧ s.retry.Bounded ∧ s.breaker.Bounded := by
    rw [seq_eq_ok, seq_eq_ok, WorkerSettings.validate_eq_ok_iff,
      RetrySettings.validate_eq_ok_iff, BreakerSettings.validate_eq_ok_iff]
  unfold validate
  constructor
  · intro h
    by_cases hurl : (Text.trim s.databaseUrl.toList).isEmpty = true
    · rw [if_pos hurl] at h
      cases h
    by_cases hconnections : s.maxConnections = 0
    · rw [if_neg hurl, if_pos hconnections] at h
      cases h
    rw [if_neg hurl, if_neg hconnections] at h
    obtain ⟨hworker, hretry, hbreaker⟩ := hparts.1 h
    exact ⟨fun hnil => hurl (List.isEmpty_iff.2 hnil), Nat.pos_of_ne_zero hconnections, hworker,
      hretry, hbreaker⟩
  · intro h
    have hurl : ¬(Text.trim s.databaseUrl.toList).isEmpty = true :=
      fun hempty => h.databaseUrl (List.isEmpty_iff.1 hempty)
    rw [if_neg hurl, if_neg (Nat.pos_iff_ne_zero.1 h.maxConnections)]
    exact hparts.2 ⟨h.worker, h.retry, h.breaker⟩

theorem Settings.bounded_of_load {workerId : String} {process : Environment}
    {file : String → FileContent} {settings : Settings}
    (h : load workerId process file = .ok settings) : settings.Bounded := by
  obtain ⟨vs, hprocess⟩ := Layers.exists_variables_of_load h
  have hload := (Layers.describes_of_load h).load_ofVariables hprocess workerId
  have haccept := mapError_eq_ok.1 (hload.symm.trans h)
  rw [eq_of_accept haccept]
  exact validate_eq_ok_iff.1 (seq_eq_ok.1 haccept).1

/-! ## Spans of some weeks -/

namespace Time.Instant

/-- The milliseconds of a number of weeks. -/
def millisOfWeeks (weeks : Nat) : Nat := weeks * 604800000

/-- The instant a number of weeks before the last one. -/
def weeksBeforeLast (weeks : Nat) : Instant := last.moved (-(millisOfWeeks weeks : Int))

theorem weeksBeforeLast_eq (weeks : Nat) :
    weeksBeforeLast weeks = ofNanos (last.nanos - weeks * 604800000000000) := by
  have hspan : -(millisOfWeeks weeks : Int) * nanosPerMilli = -(weeks * 604800000000000) := by
    change -((weeks * 604800000 : Nat) : Int) * 1000000 = _
    omega
  have hleap : (!last.isLeap) = true := by decide
  rw [weeksBeforeLast, moved, shifted, Delta.ofMillis, hspan, hleap, Bool.true_or, if_pos rfl]
  rfl

/-- **A span of some weeks** can be added to an instant that is at least as long before the last
one. -/
theorem addMillis?_of_weeks {t : Instant} {ms weeks : Nat} (hfirst : first ≤ t)
    (hlate : t ≤ weeksBeforeLast weeks) (hms : ms ≤ millisOfWeeks weeks) :
    t.addMillis? ms = some (t.moved ms) := by
  refine addMillis?_of_le_last hfirst ?_
  have hend : last.nanos = 8210266876799999999999 := rfl
  have hlast : last.rank = 16420533753598999999999 := rfl
  rw [weeksBeforeLast_eq, hend] at hlate
  change t.rank ≤ (ofNanos _).rank at hlate
  change (t.moved ms).rank ≤ last.rank
  rw [rank_ofNanos] at hlate
  rw [hlast]
  rw [millisOfWeeks] at hms
  have hnanos := t.nanos_eq
  obtain ⟨hs, hm⟩ | ⟨hs, he, hm⟩ | ⟨hs, he, hm⟩ := t.moved_cases ms <;>
    simp only [hm, rank_ofNanos] <;> omega

end Time.Instant

/-! ## The plan of a worker -/

theorem Span.totalNanos_ofMillis (ms : Nat) : (Span.ofMillis ms).totalNanos = ms * 1000000 := by
  change ms / 1000 * 1000000000 + ms % 1000 * 1000000 = ms * 1000000
  omega

theorem Span.totalNanos_ofSeconds (seconds : Nat) :
    (Span.ofSeconds seconds).totalNanos = seconds * 1000000000 := by
  rw [ofSeconds, totalNanos, Nat.add_zero]

theorem RetrySettings.Bounded.backoff?_eq {s : RetrySettings} (h : s.Bounded) :
    s.backoff? = some ⟨s.jitterRatio, ⟨s.maxDelayMinutes * 60, 0⟩⟩ := by
  have hfits : s.maxDelayMinutes * 60 ≤ Number.maxUnsigned 64 := by
    have hmax : Number.maxUnsigned 64 = 18446744073709551615 := rfl
    have hdelay := h.maxDelay.2
    omega
  rw [backoff?, Number.unsigned?, if_pos hfits]
  rfl

theorem BreakerSettings.Bounded.policy?_eq {s : BreakerSettings} (h : s.Bounded) :
    s.policy? = some ⟨s.failureThreshold, .ofMillis (s.pauseMinutes * 60000)⟩ := by
  obtain ⟨hleast, hmost⟩ := h.pause
  have hseconds : Number.minSigned 64 ≤ s.pauseMinutes * 60 ∧
      s.pauseMinutes * 60 ≤ Number.maxSigned 64 := by
    have hmin : Number.minSigned 64 = -9223372036854775808 := rfl
    have hmax : Number.maxSigned 64 = 9223372036854775807 := rfl
    omega
  have hspan : (s.pauseMinutes * 60 * 1000).natAbs ≤ Instant.maxSpanMillis := by
    have hmax : Instant.maxSpanMillis = 9223372036854775807 := rfl
    omega
  have hminutes : Delta.ofMinutes? s.pauseMinutes =
      some (.ofMillis (s.pauseMinutes * 60 * 1000)) := by
    rw [Delta.ofMinutes?, Number.signed?, if_pos hseconds]
    exact if_pos hspan
  have hmul : s.pauseMinutes * 60 * 1000 = s.pauseMinutes * 60000 := by omega
  rw [policy?, hminutes, hmul]
  rfl

/-- **The plan of a worker** exists for bounded settings, and it follows the policies that the
settings stand for. -/
theorem Settings.Bounded.workerPlan?_eq {s : Settings} (h : s.Bounded) :
    s.workerPlan? = some {
      name := s.worker.id
      heartbeatInterval := .ofSeconds s.worker.heartbeatIntervalSeconds
      shutdownPoll := .ofMillis s.worker.shutdownPollMillis
      consumer := ⟨.ofMillis s.worker.pollIntervalMillis, s.backoff, s.breakerPolicy⟩ } := by
  rw [workerPlan?, consumerPlan?, h.retry.backoff?_eq, h.breaker.policy?_eq]
  rfl

/-! ## Delays and pauses -/

namespace Backoff

variable {b : Backoff} {now : Instant} {attempt attempt' weeks : Nat}

/-- **A delay of some weeks** at most leads to the instant after it, if time goes on for as long. -/
theorem nextRunAt_of_weeks {word : Nat} (hfirst : Instant.first ≤ now)
    (hlate : now ≤ Instant.weeksBeforeLast weeks)
    (hms : b.delayMillis attempt word ≤ Instant.millisOfWeeks weeks) :
    now.addMillis? (b.delayMillis attempt word) = some (b.nextRunAt attempt now word) ∧
      b.nextRunAt attempt now word = now.moved (b.delayMillis attempt word) := by
  have hadd := Instant.addMillis?_of_weeks hfirst hlate hms
  have hdue : b.nextRunAt attempt now word = now.moved (b.delayMillis attempt word) := by
    rw [nextRunAt_eq hfirst, hadd, Option.getD_some]
  exact ⟨hdue ▸ hadd, hdue⟩

/-- Under a cap of whole minutes a delay is a minute at least and the cap at most. -/
theorem cappedMillis_bounds {minutes : Nat} (hcap : b.cap = ⟨minutes * 60, 0⟩)
    (hminutes : 1 ≤ minutes ∧ minutes ≤ 10080) (attempt : Nat) :
    60000 ≤ b.cappedMillis attempt ∧ b.cappedMillis attempt ≤ minutes * 60000 := by
  have hpow : 1 ≤ 2 ^ (max attempt 1 - 1) := Nat.one_le_two_pow
  have hnanos : b.cap.totalNanos = minutes * 60 * 1000000000 := by
    rw [hcap, Span.totalNanos, Nat.add_zero]
  rw [cappedMillis_eq, hnanos]
  omega

/-- Without chance and under such a cap a job is due after its delay. -/
theorem nextRunAt_of_cap {minutes : Nat} (hcap : b.cap = ⟨minutes * 60, 0⟩)
    (hminutes : 1 ≤ minutes ∧ minutes ≤ 10080) (hratio : b.ratio.isZero)
    (hfirst : Instant.first ≤ now) (hlate : now ≤ Instant.weeksBeforeLast 2)
    (attempt word : Nat) :
    now.addMillis? (b.delayMillis attempt word) = some (b.nextRunAt attempt now word) ∧
      b.nextRunAt attempt now word = now.moved (b.cappedMillis attempt) := by
  have hweeks : Instant.millisOfWeeks 2 = 1209600000 := rfl
  have hmost := (cappedMillis_bounds hcap hminutes attempt).2
  have hwait := delayMillis_of_isZero hratio attempt word
  obtain ⟨hadd, hdue⟩ := nextRunAt_of_weeks hfirst hlate
    (show b.delayMillis attempt word ≤ Instant.millisOfWeeks 2 by omega)
  exact ⟨hadd, hdue.trans (by rw [hwait])⟩

end Backoff

/-- A key that a failure pauses is paused until the end that the pause of the policy gives. -/
theorem Queue.pausedUntil_of_opened {σ : Type} {q : Queue σ} {policy : BreakerPolicy}
    {key : SyncKey} {n : Int} {now : Instant} {w w' : World σ} {state : FailureState}
    (h : q.recordFailure policy key n now w = .ok state w') (hopened : state.opened = true) :
    state.pausedUntil = some (Breaker.pauseEnd policy now) ∧
      ∃ row, w'.tables.stat? key = some row ∧ row.pausedUntil = state.pausedUntil := by
  obtain ⟨rfl, -, hw'⟩ := (q.recordFailure_meets policy key n now w).ok_of_eq h
  refine ⟨FailureStat.pausedUntil_of_opens hopened, _, ?_, rfl⟩
  rw [hw'.tables, Tables.stat?_withFailure, if_pos rfl]

/-- A pause within its bounds ends exactly when it should, if time goes on for as long. -/
theorem Settings.Bounded.pauseEnd_eq {s : Settings} {now : Instant} (h : s.Bounded)
    (hfirst : Instant.first ≤ now) (hlate : now ≤ Instant.weeksBeforeLast 2) :
    now.addMillis? (s.breaker.pauseMinutes * 60000) =
      some (Breaker.pauseEnd s.breakerPolicy now) := by
  obtain ⟨hleast, hmost⟩ := h.breaker.pause
  obtain ⟨minutes, hminutes⟩ := Int.eq_ofNat_of_zero_le (Int.le_trans (by decide) hleast)
  have hweeks : Instant.millisOfWeeks 2 = 1209600000 := rfl
  have hadd := Instant.addMillis?_of_weeks hfirst hlate
    (show minutes * 60000 ≤ Instant.millisOfWeeks 2 by omega)
  have hmillis : s.breaker.pauseMinutes * 60000 = (minutes * 60000 : Nat) := by omega
  have hend : Breaker.pauseEnd s.breakerPolicy now =
      (now.addMillis? (s.breaker.pauseMinutes * 60000)).getD Instant.last := rfl
  rw [hend, hmillis, hadd, Option.getD_some]

namespace Settings

variable {workerId : String} {process : Environment} {file : String → FileContent}
  {settings : Settings}

/-- **Accepted settings are safe.** Whatever the files and the variables of the process are, if
loading succeeds then the settings can be turned into the plan of a worker.

1. No computation leaves its range, and the plan has the policies of the settings. No clock of it
   stands still. The breaker opens after one failure at the earliest and for a minute to a week.
2. Without chance a job that fails two weeks before the last instant, or earlier, is due after its
   delay, and never at once for want of an instant: after a minute at least and the longest delay
   at most, and no earlier for a later attempt.
3. A pause that a failure begins at such a time lasts exactly as long as the settings say. -/
theorem accepted_safe (h : load workerId process file = .ok settings) :
    ∃ plan, settings.workerPlan? = some plan ∧
      plan.consumer.backoff = settings.backoff ∧
      plan.consumer.breaker = settings.breakerPolicy ∧
      0 < plan.heartbeatInterval.totalNanos ∧ 0 < plan.shutdownPoll.totalNanos ∧
      0 < plan.consumer.pollInterval.totalNanos ∧
      1 ≤ plan.consumer.breaker.threshold ∧
      60 * 1000000000 ≤ plan.consumer.breaker.pause.nanos ∧
      plan.consumer.breaker.pause.nanos ≤ 7 * 24 * 60 * 60 * 1000000000 ∧
      ∀ now, Instant.first ≤ now → now ≤ Instant.weeksBeforeLast 2 →
        (∃ soonest latest, now.addMillis? 60000 = some soonest ∧
          now.addMillis? (settings.retry.maxDelayMinutes * 60000 : Nat) = some latest ∧
          ∀ b : Backoff, b.cap = plan.consumer.backoff.cap → b.ratio.isZero →
            ∀ attempt word,
              now.addMillis? (b.delayMillis attempt word) =
                some (b.nextRunAt attempt now word) ∧
              soonest ≤ b.nextRunAt attempt now word ∧
              b.nextRunAt attempt now word ≤ latest ∧
              ∀ attempt' word', attempt ≤ attempt' →
                b.nextRunAt attempt now word ≤ b.nextRunAt attempt' now word') ∧
        ∃ end_, now.addMillis? (settings.breaker.pauseMinutes * 60000) = some end_ ∧
          ∀ {σ : Type} (q : Queue σ) (key : SyncKey) (n : Int) (w w' : World σ)
            (state : FailureState),
            q.recordFailure plan.consumer.breaker key n now w = .ok state w' →
            state.opened = true →
            state.pausedUntil = some end_ ∧
              ∃ row, w'.tables.stat? key = some row ∧ row.pausedUntil = some end_ := by
  have hbounded := bounded_of_load h
  obtain ⟨hpoll, hheartbeat, hshutdown⟩ := hbounded.worker
  obtain ⟨hthreshold, hpause⟩ := hbounded.breaker
  have hdelay := hbounded.retry.maxDelay
  refine ⟨_, hbounded.workerPlan?_eq, rfl, rfl, ?_, ?_, ?_, hthreshold, ?_, ?_,
    fun now hfirst hlate => ⟨?_, ?_⟩⟩
  · rw [Span.totalNanos_ofSeconds]
    omega
  · rw [Span.totalNanos_ofMillis]
    omega
  · rw [Span.totalNanos_ofMillis]
    omega
  · change 60 * 1000000000 ≤ settings.breaker.pauseMinutes * 60000 * 1000000
    omega
  · change settings.breaker.pauseMinutes * 60000 * 1000000 ≤ 7 * 24 * 60 * 60 * 1000000000
    omega
  · have hweeks : Instant.millisOfWeeks 2 = 1209600000 := rfl
    refine ⟨_, _, Instant.addMillis?_of_weeks hfirst hlate (by decide),
      Instant.addMillis?_of_weeks hfirst hlate (by omega), fun b hcap hratio attempt word => ?_⟩
    have hdue := b.nextRunAt_of_cap hcap hdelay hratio hfirst hlate
    have hbounds := b.cappedMillis_bounds hcap hdelay attempt
    refine ⟨(hdue attempt word).1, ?_, ?_, fun attempt' word' hattempt => ?_⟩
    · rw [(hdue attempt word).2]
      exact now.moved_mono hbounds.1
    · rw [(hdue attempt word).2]
      exact now.moved_mono hbounds.2
    · rw [(hdue attempt word).2, (hdue attempt' word').2]
      exact now.moved_mono (Backoff.cappedMillis_mono hattempt (Nat.le_refl _))
  · refine ⟨_, hbounded.pauseEnd_eq hfirst hlate, fun q key n w w' state hrun hopened => ?_⟩
    obtain ⟨hpaused, row, hrow, hsame⟩ := Queue.pausedUntil_of_opened hrun hopened
    exact ⟨hpaused, row, hrow, hsame.trans hpaused⟩

/-- The variables of a process that rules chance out and allows delays of a week. -/
def patient : Environment := .ofVariables
  [("CALSYNC_RETRY_JITTER_RATIO", "0"), ("CALSYNC_RETRY_MAX_DELAY_MINUTES", "10080")]

/-- At the last time for which it is promised, the greatest number of an attempt leads to a delay
of a week at most, and not to one that is taken for none. -/
theorem accepted_safe_patient :
    ∃ settings latest, load "w" patient (fun _ => .absent) = .ok settings ∧
      (Instant.weeksBeforeLast 2).addMillis? 604800000 = some latest ∧
      settings.backoff.nextRunAt 4294967295 (Instant.weeksBeforeLast 2) 0 ≤ latest ∧
      Instant.weeksBeforeLast 2 <
        settings.backoff.nextRunAt 4294967295 (Instant.weeksBeforeLast 2) 0 := by
  have hread : (load "w" patient fun _ => .absent).toOption.map
      (fun s => (s.backoff.ratio.isZero, s.retry.maxDelayMinutes)) = some (true, 10080) := by
    decide +kernel
  cases hload : load "w" patient fun _ => .absent with
  | error e =>
    rw [hload] at hread
    cases hread
  | ok settings =>
    rw [hload] at hread
    obtain ⟨hratio, hdelay⟩ := Prod.mk.inj (Option.some.inj hread)
    obtain ⟨plan, -, hbackoff, -, -, -, -, -, -, -, hpromise⟩ := accepted_safe hload
    obtain ⟨⟨soonest, latest, hsoonest, hlatest, hdue⟩, -⟩ :=
      hpromise (Instant.weeksBeforeLast 2) (by decide +kernel) (Int.le_refl _)
    obtain ⟨-, hleast, hmost, -⟩ :=
      hdue settings.backoff (by rw [hbackoff]) hratio 4294967295 0
    rw [hdelay] at hlatest
    refine ⟨settings, latest, rfl, hlatest, hmost, Int.lt_of_lt_of_le ?_ hleast⟩
    have hminute : (Instant.weeksBeforeLast 2).addMillis? (60000 : Nat) =
        some ((Instant.weeksBeforeLast 2).moved (60000 : Nat)) := by decide +kernel
    rw [← Option.some.inj (hminute.symm.trans hsoonest)]
    exact Instant.lt_moved (by decide) _

end Settings

end SyncQueue
