/-!
# Binary floating point

IEEE 754 binary64 numbers as exact values, and arithmetic on them. An operation computes the exact
rational result and rounds it once, to the nearest number and in a tie to the even significand.

`ofRatio` is that rounding. A finite number is `± significand * 2 ^ exponent`; the functions of this
module build canonical ones only: `significand < 2 ^ 53`, the exponent lies between `-1074` and
`971`, and it is `-1074` when the significand is below `2 ^ 52`. Hence equality of values of this
type is equality of bit patterns, with one NaN.
-/

namespace SyncQueue.Number

/-- A binary64 number. -/
inductive Binary64 where
  /-- Not a number. -/
  | nan
  /-- An infinity. -/
  | infinite (negative : Bool)
  /-- The number `± significand * 2 ^ exponent`. -/
  | finite (negative : Bool) (significand : Nat) (exponent : Int)
  deriving DecidableEq, Repr, Inhabited

namespace Binary64

/-- The exponent of the smallest positive number. -/
def minExponent : Int := -1074

/-- The exponent of the largest finite numbers. -/
def maxExponent : Int := 971

/-- The number of bits of a full significand. -/
def precision : Nat := 53

/-- A zero of the given sign. -/
def zero (negative : Bool) : Binary64 := .finite negative 0 minExponent

/-! ## Rounding -/

/-- The quotient to the nearest whole number, in a tie to the even one. -/
def divideToEven (num den : Nat) : Nat :=
  let q := num / den
  let twice := 2 * (num % den)
  if twice < den then q
  else if den < twice then q + 1
  else if q % 2 = 0 then q else q + 1

/-- The largest `k` with `2 ^ k ≤ num / den`, for positive `num` and `den`. -/
def log2Ratio (num den : Nat) : Int :=
  let k : Int := (Nat.log2 num : Int) - Nat.log2 den
  let reached : Bool :=
    if 0 ≤ k then decide (den * Nat.pow 2 k.toNat ≤ num)
    else decide (den ≤ num * Nat.pow 2 (-k).toNat)
  if reached then k else k - 1

/-- The number nearest to `num / den`, a tie going to the even significand. Beyond the largest
finite number, by half a unit of its last place or more, this is an infinity. -/
def ofRatio (negative : Bool) (num den : Nat) : Binary64 :=
  if num = 0 then zero negative
  else
    let e := max (log2Ratio num den - 52) minExponent
    let m := if 0 ≤ e then divideToEven num (den * Nat.pow 2 e.toNat)
      else divideToEven (num * Nat.pow 2 (-e).toNat) den
    let (m, e) := if m = Nat.pow 2 precision then (Nat.pow 2 52, e + 1) else (m, e)
    if maxExponent < e then .infinite negative else .finite negative m e

/-- The number nearest to `± m * 2 ^ e`. -/
def ofDyadic (negative : Bool) (m : Nat) (e : Int) : Binary64 :=
  ofRatio negative (m * Nat.pow 2 e.toNat) (Nat.pow 2 (-e).toNat)

/-- The number nearest to a natural number. -/
def ofNat (n : Nat) : Binary64 := ofRatio false n 1

/-- The number nearest to an integer. -/
def ofInt (i : Int) : Binary64 := ofRatio (decide (i < 0)) i.natAbs 1

/-! ## Arithmetic -/

/-- The product. -/
def mul : Binary64 → Binary64 → Binary64
  | .nan, _ => .nan
  | _, .nan => .nan
  | .infinite s, .infinite t => .infinite (s != t)
  | .infinite s, .finite t m _ => if m = 0 then .nan else .infinite (s != t)
  | .finite s m _, .infinite t => if m = 0 then .nan else .infinite (s != t)
  | .finite s m e, .finite t n f => ofDyadic (s != t) (m * n) (e + f)

/-- A sign and a magnitude as an integer. -/
def signed (negative : Bool) (m : Nat) : Int := if negative then -(m : Int) else m

/-- The sum. A sum of opposite numbers is a positive zero. -/
def add : Binary64 → Binary64 → Binary64
  | .nan, _ => .nan
  | _, .nan => .nan
  | .infinite s, .infinite t => if s = t then .infinite s else .nan
  | .infinite s, .finite .. => .infinite s
  | .finite .., .infinite t => .infinite t
  | .finite s m e, .finite t n f =>
    let g := min e f
    let total :=
      signed s (m * Nat.pow 2 (e - g).toNat) + signed t (n * Nat.pow 2 (f - g).toNat)
    if total = 0 then zero (s && t) else ofDyadic (decide (total < 0)) total.natAbs g

/-- The number of opposite sign. -/
def neg : Binary64 → Binary64
  | .nan => .nan
  | .infinite s => .infinite (!s)
  | .finite s m e => .finite (!s) m e

/-- The difference. -/
def sub (x y : Binary64) : Binary64 := add x (neg y)

/-- The quotient. -/
def div : Binary64 → Binary64 → Binary64
  | .nan, _ => .nan
  | _, .nan => .nan
  | .infinite _, .infinite _ => .nan
  | .infinite s, .finite t _ _ => .infinite (s != t)
  | .finite s _ _, .infinite t => zero (s != t)
  | .finite s m e, .finite t n f =>
    if n = 0 then (if m = 0 then .nan else .infinite (s != t))
    else
      let g := e - f
      ofRatio (s != t) (m * Nat.pow 2 g.toNat) (n * Nat.pow 2 (-g).toNat)

/-! ## Order -/

/-- The order of two numbers: none when one of them is not a number; zeros of both signs are
equal. -/
def compare? : Binary64 → Binary64 → Option Ordering
  | .nan, _ => none
  | _, .nan => none
  | .infinite s, .infinite t => some (if s = t then .eq else if s then .lt else .gt)
  | .infinite s, .finite .. => some (if s then .lt else .gt)
  | .finite .., .infinite t => some (if t then .gt else .lt)
  | .finite s m e, .finite t n f =>
    let g := min e f
    some <| Ord.compare (signed s (m * Nat.pow 2 (e - g).toNat))
      (signed t (n * Nat.pow 2 (f - g).toNat))

/-- `x` is at most `y`; false when one of them is not a number. -/
def le (x y : Binary64) : Bool :=
  match compare? x y with
  | some .gt => false
  | some _ => true
  | none => false

/-- The number is a zero of either sign. -/
def isZero : Binary64 → Bool
  | .finite _ m _ => m = 0
  | _ => false

/-- The number, or a positive zero when it is negative or not a number. -/
def clampBelow : Binary64 → Binary64
  | .nan => zero false
  | .infinite s => if s then zero false else .infinite false
  | .finite s m e => if s then zero false else .finite false m e

/-! ## Whole numbers -/

/-- The nearest whole number, a half going away from zero. -/
def round : Binary64 → Binary64
  | .finite s m e =>
    if 0 ≤ e then .finite s m e
    else
      let unit := Nat.pow 2 (-e).toNat
      ofRatio s ((2 * m + unit) / (2 * unit)) 1
  | x => x

/-- The whole part of a number, held between zero and `bound`; zero when it is not a number. -/
def toNatUpTo (bound : Nat) : Binary64 → Nat
  | .nan => 0
  | .infinite s => if s then 0 else bound
  | .finite s m e => if s then 0 else min bound (m * Nat.pow 2 e.toNat / Nat.pow 2 (-e).toNat)

end Binary64

end SyncQueue.Number
