import SyncQueue.Text.Blank
import SyncQueue.Time.Instant

/-!
# Zoned times

A date and a time of day together with the offset of its clock from UTC, as documents carry them.
`read?` accepts a date, a `T` or a blank, a time of day and an offset: blanks may stand before each
number and each separator, the sixtieth second of a minute counts as a leap second, and the offset
is `Z`, `UTC` or a sign with hours and minutes. `text` writes the same time in the one canonical
form.
-/

namespace SyncQueue.Time

open SyncQueue.Text

/-- A local time and its offset from UTC. A leap second is the second 59 of its minute with a
nanosecond of at least `10 ^ 9`. -/
structure Zoned where
  date : Date
  secondOfDay : Nat
  nanosecond : Nat
  offsetMinutes : Int
  deriving DecidableEq, Repr

namespace Zoned

/-! ## Reading -/

/-- One to `width` digits. -/
def digitsUpTo? (width : Nat) (cs : List Char) : Option (Nat × List Char) :=
  let ds := (cs.take width).takeWhile Char.isDigit
  if ds.isEmpty then none else some (Nat.ofDigitChars 10 ds 0, cs.drop ds.length)

/-- One to `width` digits after blanks. -/
def field? (width : Nat) (cs : List Char) : Option (Nat × List Char) :=
  digitsUpTo? width (trimStart cs)

/-- A character after blanks. -/
def separator? (c : Char) (cs : List Char) : Option (List Char) :=
  match trimStart cs with
  | d :: rest => if d = c then some rest else none
  | [] => none

/-- A year after blanks: up to four digits, or a sign and any number of digits. -/
def year? (cs : List Char) : Option (Int × List Char) :=
  match trimStart cs with
  | '-' :: rest => (digitsUpTo? rest.length rest).map fun (n, rest) => (-(n : Int), rest)
  | '+' :: rest => (digitsUpTo? rest.length rest).map fun (n, rest) => ((n : Int), rest)
  | rest => (digitsUpTo? 4 rest).map fun (n, rest) => ((n : Int), rest)

/-- A point and digits, of which nine count; nothing without a point. -/
def fraction? : List Char → Option (Nat × List Char)
  | '.' :: cs =>
    let ds := cs.takeWhile Char.isDigit
    if ds.isEmpty then none
    else
      let counted := ds.take 9
      some (Nat.ofDigitChars 10 counted 0 * Nat.pow 10 (9 - counted.length), cs.drop ds.length)
  | cs => some (0, cs)

/-- Hours and minutes of an offset; colons and blanks may stand between them. -/
def offsetDigits? (cs : List Char) : Option (Nat × List Char) :=
  match cs with
  | a :: b :: rest =>
    match (rest.dropWhile fun c => c = ':' || isBlank c) with
    | c :: d :: rest =>
      if [a, b, c, d].all Char.isDigit && Nat.ofDigitChars 10 [c, d] 0 < 60 then
        some (Nat.ofDigitChars 10 [a, b] 0 * 60 + Nat.ofDigitChars 10 [c, d] 0, rest)
      else none
    | _ => none
  | _ => none

/-- An offset from UTC in minutes. -/
def offset? (cs : List Char) : Option (Int × List Char) :=
  if (cs.take 3).map Char.toUpper = "UTC".toList then some (0, cs.drop 3)
  else
    match cs with
    | 'Z' :: rest => some (0, rest)
    | 'z' :: rest => some (0, rest)
    | '+' :: rest => (offsetDigits? rest).map fun (n, rest) => ((n : Int), rest)
    | '-' :: rest => (offsetDigits? rest).map fun (n, rest) => (-(n : Int), rest)
    | '−' :: rest => (offsetDigits? rest).map fun (n, rest) => (-(n : Int), rest)
    | _ => none

/-- The seconds since 1970 in UTC. -/
def utcSeconds (z : Zoned) : Int :=
  z.date.dayNumber * secondsPerDay + z.secondOfDay - z.offsetMinutes * 60

/-- The instant of a zoned time. -/
def instant (z : Zoned) : Instant := .ofSecond z.utcSeconds z.nanosecond

/-- The time exists: a valid date and time of day, an offset of less than a day, and an instant
within range. -/
def isValid (z : Zoned) : Bool :=
  z.date.isValid && z.offsetMinutes.natAbs < 1440 && z.instant.inRange

/-- Read a zoned time that takes up the whole text. -/
def read? (cs : List Char) : Option Zoned := do
  let (year, cs) ← year? cs
  let cs ← separator? '-' cs
  let (month, cs) ← field? 2 cs
  let cs ← separator? '-' cs
  let (day, cs) ← field? 2 cs
  let cs ← match cs with
    | c :: rest => if c = 'T' || c = 't' || c = ' ' then some rest else none
    | [] => none
  let (hour, cs) ← field? 2 cs
  let cs ← separator? ':' cs
  let (minute, cs) ← field? 2 cs
  let cs ← separator? ':' cs
  let (second, cs) ← field? 2 cs
  let (nanos, cs) ← fraction? cs
  let (offset, cs) ← offset? (trimStart cs)
  guard (trimStart cs).isEmpty
  guard (hour < 24 && minute < 60 && second ≤ 60)
  let leap := second = 60
  let z : Zoned := {
    date := ⟨year, month, day⟩
    secondOfDay := hour * 3600 + minute * 60 + (if leap then 59 else second)
    nanosecond := if leap then nanos + 1000000000 else nanos
    offsetMinutes := offset }
  if z.isValid then some z else none

/-! ## Writing -/

/-- The offset: `Z` for none, else a sign, hours and minutes. -/
def offsetText (minutes : Int) : List Char :=
  if minutes = 0 then ['Z']
  else
    (if minutes < 0 then '-' else '+') :: padded 2 (minutes.natAbs / 60) ++
      ':' :: padded 2 (minutes.natAbs % 60)

/-- The canonical text. A leap second shows as second 60. -/
def text (z : Zoned) : String :=
  String.ofList (Instant.dateText z.date ++ 'T' :: Instant.clockText z.secondOfDay z.nanosecond ++
    offsetText z.offsetMinutes)

/-- The time is later than another. -/
def isAfter (a b : Zoned) : Bool := b.instant < a.instant

end Zoned

end SyncQueue.Time
