import SyncQueue.Number.Width
import SyncQueue.Text.Decimal
import SyncQueue.Time.Calendar

/-!
# Instants

Points of the time line with a resolution of one nanosecond, and their texts. A second may be
followed by a leap second, which counts as a part of it: each second has `2 * 10 ^ 9` ranks in the
order of time, those of its nanoseconds and those of the nanoseconds of a leap second after it.
Instants end with the year 262142: `add?` refuses to go past the end.

The store keeps instants as text and compares the texts. For years of four digits that is the order
of time (`storedLe`, `storedLt`); a year beyond 9999 is written with a sign in front, which sorts
before every digit.
-/

namespace SyncQueue.Time

open SyncQueue.Text

/-- A point in time, by its rank in the order of time. The second that begins 1970 in UTC begins
with rank zero. -/
structure Instant where
  rank : Int
  deriving DecidableEq, Repr, Inhabited

/-- Nanoseconds in a second. -/
def nanosPerSecond : Int := 1000000000

/-- Nanoseconds in a millisecond. -/
def nanosPerMilli : Int := 1000000

/-- Seconds in a day. -/
def secondsPerDay : Int := 86400

/-- Ranks of a second: its nanoseconds and those of a leap second after it. -/
def ranksPerSecond : Int := 2 * nanosPerSecond

/-- A span of time, forward or back. -/
structure Delta where
  nanos : Int
  deriving DecidableEq, Repr

/-- A span of milliseconds. -/
def Delta.ofMillis (ms : Int) : Delta := ⟨ms * nanosPerMilli⟩

namespace Instant

instance : LE Instant := ⟨fun a b => a.rank ≤ b.rank⟩
instance : LT Instant := ⟨fun a b => a.rank < b.rank⟩
instance (a b : Instant) : Decidable (a ≤ b) := inferInstanceAs (Decidable (a.rank ≤ b.rank))
instance (a b : Instant) : Decidable (a < b) := inferInstanceAs (Decidable (a.rank < b.rank))

/-! ## Seconds and nanoseconds -/

/-- A nanosecond of a second, counted from the start of 1970; from `10 ^ 9` on it lies in a leap
second. -/
def ofSecond (second : Int) (nanosecond : Nat) : Instant := ⟨second * ranksPerSecond + nanosecond⟩

/-- The second, counted from the start of 1970. A leap second counts as the one before it. -/
def second (t : Instant) : Int := t.rank / ranksPerSecond

/-- The nanosecond within the second; from `10 ^ 9` on it lies in a leap second. -/
def nanosecond (t : Instant) : Nat := (t.rank % ranksPerSecond).toNat

/-- The instant lies in a leap second. -/
def isLeap (t : Instant) : Bool := nanosPerSecond ≤ t.nanosecond

/-- The instant a number of nanoseconds after the start of 1970, leap seconds not counted. -/
def ofNanos (nanos : Int) : Instant :=
  ⟨nanos / nanosPerSecond * ranksPerSecond + nanos % nanosPerSecond⟩

/-- The nanoseconds since the start of 1970; a leap second coincides with the second after it. -/
def nanos (t : Instant) : Int := t.second * nanosPerSecond + t.nanosecond

/-- The instant on a clock that knows no leap seconds. -/
def withoutLeap (t : Instant) : Instant := ofNanos t.nanos

/-- The whole milliseconds since the start of 1970. -/
def millis (t : Instant) : Int := t.nanos / nanosPerMilli

/-! ## Range -/

/-- The last instant outside of leap seconds: the last nanosecond of the year 262142. -/
def last : Instant := ofNanos 8210266876799999999999

/-- The first instant: the start of the year -262143. -/
def first : Instant := ofNanos (-8334601228800000000000)

/-- The instant is not before the first one, and not after the second of the last one. -/
def inRange (t : Instant) : Bool := first ≤ t && t.second ≤ last.second

/-! ## Spans -/

/-- The longest span of time that can be added, in milliseconds. -/
def maxSpanMillis : Nat := Number.maxUnsigned 63

/-- The instant after a span. A span of less than a second may stay within a leap second; any other
one that begins in a leap second takes it for the second before it when it goes forward, and for the
second after it when it goes back. -/
def shifted (t : Instant) (d : Delta) : Instant :=
  if !t.isLeap || d.nanos ≤ -nanosPerSecond then ofNanos (t.nanos + d.nanos)
  else if d.nanos < nanosPerSecond && t.nanosecond + d.nanos < ranksPerSecond then
    ⟨t.rank + d.nanos⟩
  else ofNanos (t.nanos - nanosPerSecond + d.nanos)

/-- The instant after a span in milliseconds. -/
def moved (t : Instant) (ms : Int) : Instant := t.shifted (.ofMillis ms)

/-- Move by a span; none past the ends of time. -/
def add? (t : Instant) (d : Delta) : Option Instant :=
  if (t.shifted d).inRange then some (t.shifted d) else none

/-- Move by a span in milliseconds; none past the ends of time. -/
def addMillis? (t : Instant) (ms : Int) : Option Instant := t.add? (.ofMillis ms)

/-! ## Text -/

/-- The date of an instant. -/
def date (t : Instant) : Date := .ofDayNumber (t.second / secondsPerDay)

/-- A year: four digits, or a sign and at least four digits outside the years 0 to 9999. -/
def yearText (year : Int) : List Char :=
  if 0 ≤ year && year ≤ 9999 then padded 4 year.toNat
  else (if year < 0 then '-' else '+') :: padded 4 year.natAbs

/-- A date as `YYYY-MM-DD`. -/
def dateText (d : Date) : List Char :=
  yearText d.year ++ '-' :: padded 2 d.month ++ '-' :: padded 2 d.day

/-- A fraction of a second: nothing, or a point and three, six or nine digits, the fewest that lose
nothing. -/
def fractionText (nanos : Nat) : List Char :=
  if nanos = 0 then []
  else if nanos % 1000000 = 0 then '.' :: padded 3 (nanos / 1000000)
  else if nanos % 1000 = 0 then '.' :: padded 6 (nanos / 1000)
  else '.' :: padded 9 nanos

/-- A time of day as `HH:MM:SS` with its fraction. A leap second shows as the second after its
own. -/
def clockText (secondOfDay nanosecond : Nat) : List Char :=
  let leap := decide (nanosPerSecond ≤ nanosecond)
  padded 2 (secondOfDay / 3600) ++ ':' :: padded 2 (secondOfDay / 60 % 60) ++
    ':' :: padded 2 (secondOfDay % 60 + if leap then 1 else 0) ++
    fractionText (nanosecond % nanosPerSecond.toNat)

/-- The second of the day in UTC. -/
def secondOfDay (t : Instant) : Nat := (t.second % secondsPerDay).toNat

/-- Date and time of day in UTC with something between them and something after them. -/
def textWith (separator zone : String) (t : Instant) : String :=
  String.ofList (dateText t.date ++ separator.toList ++ clockText t.secondOfDay t.nanosecond ++
    zone.toList)

/-- The text of an instant in a document: `2025-11-10T00:00:00.500Z`. -/
def text (t : Instant) : String := t.textWith "T" "Z"

/-- The text of an instant with a numeric offset: `2025-11-10T00:00:00.500+00:00`. The store keeps
this text, and messages of the circuit breaker show it. -/
def offsetText (t : Instant) : String := t.textWith "T" "+00:00"

/-- The text of an instant for people: `2025-11-10 00:00:00.500 UTC`. -/
def plainText (t : Instant) : String := t.textWith " " " UTC"

/-! ## The order of the store -/

/-- The start of the year 0. -/
def startOfYear0 : Instant := ofNanos (-62167219200000000000)

/-- The start of the year 10000. -/
def startOfYear10000 : Instant := ofNanos 253402300800000000000

/-- The year has four digits. -/
def hasFourDigitYear (t : Instant) : Bool := startOfYear0 ≤ t && t < startOfYear10000

/-- The stored text of `a` sorts before that of `b`. Texts with years of four digits sort by
time. -/
def storedLt (a b : Instant) : Bool :=
  if a.hasFourDigitYear && b.hasFourDigitYear then a < b else a.offsetText < b.offsetText

/-- The stored text of `a` sorts before that of `b` or equals it. -/
def storedLe (a b : Instant) : Bool := !storedLt b a

theorem storedLt_of_fourDigits {a b : Instant} (ha : a.hasFourDigitYear) (hb : b.hasFourDigitYear) :
    storedLt a b = decide (a < b) := by
  simp [storedLt, ha, hb]

theorem storedLe_of_fourDigits {a b : Instant} (ha : a.hasFourDigitYear) (hb : b.hasFourDigitYear) :
    storedLe a b = decide (a ≤ b) := by
  simp only [storedLe, storedLt_of_fourDigits hb ha]
  rw [← decide_not]
  exact decide_eq_decide.2 (Int.not_lt)

end Instant

end SyncQueue.Time
