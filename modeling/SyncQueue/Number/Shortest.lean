import SyncQueue.Number.Binary64
import SyncQueue.Text.Decimal

/-!
# The shortest decimal text of a number

`shortest` gives the fewest decimal digits that read back as the same number, and of several such
digit strings the nearest. Two formats write them: `plainText` is positional whatever the magnitude,
`jsonText` changes to an exponent for large and small numbers and always shows a fraction or an
exponent.
-/

namespace SyncQueue.Number.Binary64

open SyncQueue.Text

/-- Which of two equally near decimals is taken. -/
inductive Tie where
  /-- The one with an even last digit. -/
  | toEven
  /-- The one of larger magnitude. -/
  | away
  deriving DecidableEq

/-- The decimal `digits * 10 ^ exponent`. -/
structure Scientific where
  digits : Nat
  exponent : Int
  deriving DecidableEq, Repr

/-- The largest `k` with `10 ^ k ≤ num / den`, for positive `num` and `den`. -/
def log10Ratio (num den : Nat) : Int :=
  if den ≤ num then (natDigits (num / den)).length - 1
  else
    let l := (natDigits (den / num)).length
    if den = num * Nat.pow 10 (l - 1) then 1 - (l : Int) else -(l : Int)

/-- Compare `a * 10 ^ g` with `b * 2 ^ e`. -/
def compareScaled (a : Nat) (g : Int) (b : Nat) (e : Int) : Ordering :=
  compare (a * Nat.pow 10 g.toNat * Nat.pow 2 (-e).toNat)
    (b * Nat.pow 2 e.toNat * Nat.pow 10 (-g).toNat)

/-- `d * 10 ^ g` reads back as `m * 2 ^ e`: it lies between the midpoints to the two neighbours,
which belong to the number when its significand is even. -/
def readsBack (m : Nat) (e : Int) (d : Nat) (g : Int) : Bool :=
  let below := if m = Nat.pow 2 52 && minExponent < e then 4 * m - 1 else 4 * m - 2
  let low := compareScaled (4 * d) g below e
  let high := compareScaled (4 * d) g (4 * m + 2) e
  if m % 2 = 0 then low.isGE && high.isLE else low.isGT && high.isLT

/-- The nearer of the two multiples of `10 ^ g` around `m * 2 ^ e` that reads back, if one does. -/
def onGrid? (tie : Tie) (m : Nat) (e : Int) (g : Int) : Option Nat :=
  let d := (m * Nat.pow 2 e.toNat * Nat.pow 10 (-g).toNat) /
    (Nat.pow 2 (-e).toNat * Nat.pow 10 g.toNat)
  match readsBack m e d g, readsBack m e (d + 1) g with
  | true, true =>
    match compareScaled (2 * d + 1) g (2 * m) e with
    | .gt => some d
    | .lt => some (d + 1)
    | .eq => match tie with
      | .toEven => some (if d % 2 = 0 then d else d + 1)
      | .away => some (d + 1)
  | true, false => some d
  | false, true => some (d + 1)
  | false, false => none

/-- Move the zeros at the end of the digits into the exponent, at most `fuel` of them. -/
def dropZeros : Nat → Scientific → Scientific
  | 0, x => x
  | fuel + 1, x =>
    if x.digits % 10 = 0 && x.digits != 0 then dropZeros fuel ⟨x.digits / 10, x.exponent + 1⟩ else x

/-- The shortest decimal that reads back as `m * 2 ^ e`. Seventeen digits always suffice. -/
def shortest (tie : Tie) (m : Nat) (e : Int) : Scientific :=
  if m = 0 then ⟨0, 0⟩
  else
    let k := log10Ratio (m * Nat.pow 2 e.toNat) (Nat.pow 2 (-e).toNat)
    let found := (List.range 17).findSome? fun (n : Nat) =>
      let g := k - n
      (onGrid? tie m e g).map fun d => dropZeros 20 ⟨d, g⟩
    found.getD ⟨m, e⟩

/-! ## Formats -/

/-- Positional text: never an exponent, no point when there is no fraction. -/
def positional (x : Scientific) : List Char :=
  let ds := natDigits x.digits
  let places := (-x.exponent).toNat
  if 0 ≤ x.exponent then ds ++ List.replicate x.exponent.toNat '0'
  else if places < ds.length then
    ds.take (ds.length - places) ++ '.' :: ds.drop (ds.length - places)
  else '0' :: '.' :: List.replicate (places - ds.length) '0' ++ ds

/-- A minus sign for negative numbers. -/
def signText (negative : Bool) (cs : List Char) : String :=
  String.ofList (if negative then '-' :: cs else cs)

/-- The shortest positional text. -/
def plainText : Binary64 → String
  | .nan => "NaN"
  | .infinite s => signText s "inf".toList
  | .finite s m e => signText s (positional (shortest .away m e))

/-- Text with a fraction or an exponent: positional for magnitudes from `1e-5` up to, and without,
`1e16`. -/
def pointed (x : Scientific) : List Char :=
  let ds := natDigits x.digits
  let top : Int := ds.length + x.exponent
  if x.digits = 0 then "0.0".toList
  else if 0 ≤ x.exponent && top ≤ 16 then positional x ++ ".0".toList
  else if -5 < top && top ≤ 16 then positional x
  else
    let rest := ds.drop 1
    ds.take 1 ++ (if rest.isEmpty then [] else '.' :: rest) ++ 'e' :: intDigits (top - 1)

/-- The text of a number in JSON, which has no infinities and no NaN. -/
def jsonText : Binary64 → String
  | .nan => "null"
  | .infinite _ => "null"
  | .finite s m e => signText s (pointed (shortest .toEven m e))

end SyncQueue.Number.Binary64
