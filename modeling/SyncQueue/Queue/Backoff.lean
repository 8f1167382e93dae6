import SyncQueue.Number.Binary64
import SyncQueue.Number.Width
import SyncQueue.Time.Instant

/-!
# Backoff

The delay before a failed job may run again: one minute after the first failure, doubled for each
further one, capped, and then moved by a random amount proportional to it.
-/

namespace SyncQueue

open Number (Binary64)
open Time (Instant)

/-- The largest 64-bit number; computations with delays stay at it. -/
def maxMillis : Nat := Number.maxUnsigned 64

/-- A length of time. -/
structure Span where
  seconds : Nat
  nanos : Nat
  deriving DecidableEq, Repr

/-- The whole milliseconds of a span. -/
def Span.millis (s : Span) : Nat := min (s.seconds * 1000 + s.nanos / 1000000) maxMillis

/-- How failed jobs are delayed. -/
structure Backoff where
  /-- The part of a delay by which chance may move it. -/
  jitter : Binary64
  /-- The longest delay before chance moves it. -/
  cap : Span
  deriving DecidableEq, Repr

namespace Backoff

/-- The delays of the first attempts in minutes. -/
def firstMinutes : List Nat := [1, 2, 4, 8, 16]

/-- The delay of an attempt in minutes, before the cap. Attempt zero counts as the first. -/
def baseMinutes (attempt : Nat) : Nat :=
  let n := max attempt 1 - 1
  match firstMinutes[n]? with
  | some minutes => minutes
  | none => if n < 64 then Nat.pow 2 n else maxMillis

/-- The capped delay of an attempt in milliseconds. -/
def cappedMillis (b : Backoff) (attempt : Nat) : Nat :=
  min (min (baseMinutes attempt * 60000) maxMillis) b.cap.millis

/-- The jitter ratio; negative ratios and NaN count as none. -/
def ratio (b : Backoff) : Binary64 := b.jitter.clampBelow

/-- Chance moves the delays, so each takes a random word. -/
def usesChance (b : Backoff) : Bool := !b.ratio.isZero

/-- The number in `[0, 1)` that a random 64-bit word stands for: its upper 52 bits. -/
def unitOfWord (word : Nat) : Binary64 :=
  .ofRatio false (word / Nat.pow 2 12 % Nat.pow 2 52) (Nat.pow 2 52)

/-- A delay moved by chance: within the ratio times the delay of it on either side, in whole
milliseconds, and never negative. -/
def jittered (ratio : Binary64) (capped word : Nat) : Nat :=
  let base := Binary64.ofNat capped
  let amplitude := base.mul ratio
  let offset := amplitude.mul (((Binary64.ofNat 2).mul (unitOfWord word)).sub (Binary64.ofNat 1))
  (base.add offset).round.clampBelow.toNatUpTo maxMillis

/-- The delay of an attempt in milliseconds. The random word matters only if chance is used. -/
def delayMillis (b : Backoff) (attempt word : Nat) : Nat :=
  let capped := b.cappedMillis attempt
  if b.usesChance then jittered b.ratio capped word else capped

/-- The time after a delay, or the given time itself when that is past the end of time. -/
def after (t : Instant) (ms : Nat) : Instant :=
  if ms ≤ Instant.maxSpanMillis then (t.addMillis? ms).getD t else t

/-- The time at which a job that failed its `attempt`-th run at `now` is due. -/
def nextRunAt (b : Backoff) (attempt : Nat) (now : Instant) (word : Nat) : Instant :=
  after now (b.delayMillis attempt word)

/-- The delays of several attempts that draw words from a list, over and over, starting at its
`used`-th word; and the number of words used in the end. -/
def delays (b : Backoff) (attempt : Nat) (words : List Nat) : (count used : Nat) → List Nat × Nat
  | 0, used => ([], used)
  | count + 1, used =>
    let word := words.getD (used % words.length) 0
    let (rest, total) := delays b attempt words count (if b.usesChance then used + 1 else used)
    (b.delayMillis attempt word :: rest, total)

end Backoff

end SyncQueue
