import SyncQueue.Number.Binary64
import SyncQueue.Text.Decimal

/-!
# Reading numbers

A decimal with a fraction and an exponent denotes an exact rational; `ofDecimal` is the binary64
number nearest to it. `read?` accepts an optional sign and then the words `inf`, `infinity` and
`nan` in any case, or digits with an optional point and an optional exponent, at least one digit
standing before the exponent.
-/

namespace SyncQueue.Number.Binary64

open SyncQueue.Text

/-- The number nearest to `digits * 10 ^ exponent`. Exponents that leave the range whatever the
digits are settled without computing the power. -/
def ofDecimal (negative : Bool) (digits : Nat) (exponent : Int) : Binary64 :=
  let top : Int := (natDigits digits).length + exponent
  if digits = 0 then zero negative
  else if 310 < top then .infinite negative
  else if top < -330 then zero negative
  else ofRatio negative (digits * Nat.pow 10 exponent.toNat) (Nat.pow 10 (-exponent).toNat)

/-- The leading digits of a text and the rest. -/
def spanDigits (cs : List Char) : List Char × List Char := cs.span Char.isDigit

/-- An exponent: nothing, or `e` or `E`, an optional sign and digits up to the end. -/
def exponent? : List Char → Option Int
  | [] => some 0
  | c :: cs => if c = 'e' || c = 'E' then integer? cs else none

/-- Digits with an optional point and an optional exponent. -/
def unsigned? (negative : Bool) (cs : List Char) : Option Binary64 :=
  let (whole, rest) := spanDigits cs
  let (fraction, rest) := match rest with
    | '.' :: rest => spanDigits rest
    | _ => ([], rest)
  let digits := whole ++ fraction
  if digits.isEmpty then none
  else (exponent? rest).map fun e =>
    ofDecimal negative (Nat.ofDigitChars 10 digits 0) (e - fraction.length)

/-- A number after its sign. -/
def magnitude? (negative : Bool) (cs : List Char) : Option Binary64 :=
  let lower := cs.map Char.toLower
  if lower = "inf".toList || lower = "infinity".toList then some (.infinite negative)
  else if lower = "nan".toList then some .nan
  else unsigned? negative cs

/-- Read a number that takes up the whole text. -/
def read? : List Char → Option Binary64
  | '-' :: cs => magnitude? true cs
  | '+' :: cs => magnitude? false cs
  | cs => magnitude? false cs

end SyncQueue.Number.Binary64
