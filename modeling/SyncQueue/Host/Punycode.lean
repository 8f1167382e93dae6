import SyncQueue.Text.Split

/-!
# Punycode

Text as letters, digits and hyphens: first the ASCII characters of the text, and after the last
hyphen, in digits to base 36, where to insert which of the other characters. `decode?` reads it.
-/

namespace SyncQueue.Host.Punycode

open SyncQueue.Text

/-- The value of a digit: the letters come before the decimal digits. -/
def digit? (c : Char) : Option Nat :=
  if c.isLower then some (c.toNat - 'a'.toNat)
  else if c.isUpper then some (c.toNat - 'A'.toNat)
  else if c.isDigit then some (c.toNat - '0'.toNat + 26)
  else none

/-- The bound below which a digit at a position is the last one of its number. -/
def threshold (bias position : Nat) : Nat :=
  if position ≤ bias then 1 else min 26 (position - bias)

/-- Read a number. Its first digit has position 36, and each further one is 36 positions on. -/
def number? (bias position weight sum : Nat) : List Char → Option (Nat × List Char)
  | [] => none
  | c :: cs => do
    let d ← digit? c
    let t := threshold bias position
    let sum := sum + d * weight
    if d < t then return (sum, cs)
    else number? bias (position + 36) (weight * (36 - t)) sum cs

theorem length_number?_lt {bias position weight sum n : Nat} {cs rest : List Char}
    (h : number? bias position weight sum cs = some (n, rest)) : rest.length < cs.length := by
  induction cs generalizing position weight sum with
  | nil => simp [number?] at h
  | cons c cs ih =>
    simp only [number?, Option.bind_eq_bind, Option.bind_eq_some_iff] at h
    obtain ⟨d, -, h⟩ := h
    split at h
    · simp only [pure, Option.some.injEq, Prod.mk.injEq] at h
      simp [h.2]
    · exact Nat.lt_succ_of_lt (ih h)

/-- Scale a distance down, counting positions. -/
def scaled (distance position : Nat) : Nat × Nat :=
  if 455 < distance then scaled (distance / 35) (position + 36) else (distance, position)
termination_by distance
decreasing_by exact Nat.div_lt_self (by omega) (by omega)

/-- The bias after a distance, when the text has a number of characters. -/
def adapted (distance count : Nat) (isFirst : Bool) : Nat :=
  let distance := if isFirst then distance / 700 else distance / 2
  let (distance, position) := scaled (distance + distance / count) 0
  position + 36 * distance / (distance + 38)

/-- Insert a character into a text. -/
def inserted (place : Nat) (c : Char) (text : List Char) : List Char :=
  text.take place ++ c :: text.drop place

/-- Insert characters into a text as the rest of the digits says. `code` is the least code point
that may come next, and `place` the first place where it may stand. -/
def insertAll? (code place bias : Nat) (isFirst : Bool) (text : List Char) (cs : List Char) :
    Option (List Char) :=
  if cs.isEmpty then some text
  else
    match _h : number? bias 36 1 0 cs with
    | none => none
    | some (distance, rest) =>
      let count := text.length + 1
      let target := place + distance
      let code := code + target / count
      if code.isValidChar then
        insertAll? code (target % count + 1) (adapted distance count isFirst) false
          (inserted (target % count) (Char.ofNat code) text) rest
      else none
termination_by cs.length
decreasing_by exact length_number?_lt ‹_›

/-- The text that an encoded text stands for. -/
def decode? (cs : List Char) : Option (List Char) :=
  let (basic, rest) := (splitLast? '-' cs).getD ([], cs)
  insertAll? 0x80 0 72 true basic (if basic.isEmpty then cs else rest)

end SyncQueue.Host.Punycode
