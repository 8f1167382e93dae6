/-!
# Widths

The bounds of the whole numbers that fit a number of bits, with and without a sign, and the numbers
that keep them.
-/

namespace SyncQueue.Number

/-- The largest natural number of a number of bits. -/
def maxUnsigned (bits : Nat) : Nat := Nat.pow 2 bits - 1

/-- The largest integer of a number of bits, one of them for the sign. -/
def maxSigned (bits : Nat) : Int := maxUnsigned (bits - 1)

/-- The smallest integer of a number of bits, one of them for the sign. -/
def minSigned (bits : Nat) : Int := -maxSigned bits - 1

/-- A natural number, if it fits a number of bits. -/
def unsigned? (bits n : Nat) : Option Nat := if n ≤ maxUnsigned bits then some n else none

/-- An integer, if it fits a number of bits, one of them for the sign. -/
def signed? (bits : Nat) (i : Int) : Option Int :=
  if minSigned bits ≤ i ∧ i ≤ maxSigned bits then some i else none

end SyncQueue.Number
