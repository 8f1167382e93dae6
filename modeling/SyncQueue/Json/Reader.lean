import SyncQueue.Json.Syntax
import SyncQueue.Number.Width

/-!
# Reading JSON values

The value of a tree. A number without point and exponent that fits 64 bits is whole; every other one
is a binary64 number found by scaling its leading digits with a power of ten, in two roundings.
Numbers out of range, strings that denote no text and nesting deeper than `maxDepth` are refused. Of
two fields of one name the last counts. A record may stand for the value of a text that it embeds.
-/

namespace SyncQueue.Json

open Number (Binary64)

/-! ## Numbers -/

/-- The largest whole number kept as such. -/
def maxWhole : Nat := Number.maxUnsigned 64

/-- The digits that still fit, appended to a number, and how many did not. -/
def takeDigits : Nat → List Char → Nat × Nat
  | n, [] => (n, 0)
  | n, d :: ds =>
    let next := n * 10 + (d.toNat - '0'.toNat)
    if maxWhole < next then (n, ds.length + 1) else takeDigits next ds

/-- Divide by `Nat.pow 10 308` until the exponent is within the table of powers, at most `fuel`
times. -/
def scaleDown : Nat → Binary64 → Int → Binary64
  | 0, _, _ => .zero false
  | fuel + 1, x, e =>
    if x.isZero then x
    else if -308 ≤ e then x.div (Binary64.ofNat (Nat.pow 10 (-e).toNat))
    else scaleDown fuel (x.div (Binary64.ofNat (Nat.pow 10 308))) (e + 308)

/-- `digits * 10 ^ e` in two roundings; none when it is out of range. -/
def scaled? (digits : Nat) (e : Int) : Option Binary64 :=
  let x := Binary64.ofNat digits
  if 308 < e then (if x.isZero then some x else none)
  else if 0 ≤ e then
    match x.mul (Binary64.ofNat (Nat.pow 10 e.toNat)) with
    | .infinite _ => none
    | y => some y
  else some (scaleDown 4 x e)

/-- The largest exponent that is read as such. -/
def maxExponent : Nat := Number.maxUnsigned 31

/-- Give a number a sign. -/
def withSign (negative : Bool) (x : Binary64) : Binary64 := if negative then x.neg else x

/-- The value of a number with a point or an exponent, or with too many digits. -/
def NumberText.real? (n : NumberText) : Option Binary64 :=
  let (digits, dropped) := takeDigits 0 n.whole
  let (digits, e) := match n.fraction with
    | none => (digits, (dropped : Int))
    | some ds =>
      let (digits, ignored) := takeDigits digits ds
      (digits, (dropped : Int) - (ds.length - ignored : Nat))
  match n.exponent with
  | none => (scaled? digits e).map (withSign n.negative)
  | some (negative, ds) =>
    let shift := Nat.ofDigitChars 10 ds 0
    if maxExponent < shift then
      if digits != 0 && !negative then none else some (withSign n.negative (.zero false))
    else (scaled? digits (if negative then e - shift else e + shift)).map (withSign n.negative)

/-- The value of a number. A negative zero and numbers beyond 64 bits are not whole. -/
def NumberText.value? (n : NumberText) : Option Json :=
  let whole := Nat.ofDigitChars 10 n.whole 0
  let isWhole := n.fraction.isNone && n.exponent.isNone &&
    (if n.negative then 0 < whole && whole ≤ Nat.pow 2 63 else whole ≤ maxWhole)
  if isWhole then some (.integer (if n.negative then -(whole : Int) else whole))
  else n.real?.map .number

/-! ## Values -/

/-- The deepest nesting of lists and records. -/
def maxDepth : Nat := 127

/-- The name that announces an embedded text: as the first field of a record it makes the record
stand for the value of the JSON text that it holds. -/
def embeddedName : String := "$serde_json::private::RawValue"

mutual

/-- The value of a tree nested at most `depth` deep, when embedded texts have the values given. -/
def Tree.json? (embedded? : List Char → Option Json) (depth : Nat) : Tree → Option Json
  | .null => some .null
  | .bool b => some (.bool b)
  | .number n => n.value?
  | .string s => s.map .string
  | .array items =>
    match depth with
    | 0 => none
    | depth + 1 => (Tree.jsonItems? embedded? depth items).map .array
  | .object fields =>
    match depth with
    | 0 => none
    | depth + 1 =>
      if (fields.head?.bind (·.1)) = some embeddedName then
        match fields with
        | [(_, .string (some text))] => embedded? text.toList
        | _ => none
      else (Tree.jsonFields? embedded? depth [] fields).map .object

/-- The values of a list of trees. -/
def Tree.jsonItems? (embedded? : List Char → Option Json) (depth : Nat) :
    List Tree → Option (List Json)
  | [] => some []
  | t :: ts => do
    let v ← Tree.json? embedded? depth t
    let vs ← Tree.jsonItems? embedded? depth ts
    return v :: vs

/-- The fields of a record after the fields read so far. -/
def Tree.jsonFields? (embedded? : List Char → Option Json) (depth : Nat)
    (read : List (String × Json)) : List (Option String × Tree) → Option (List (String × Json))
  | [] => some read
  | (name, t) :: fs => do
    let name ← name
    let v ← Tree.json? embedded? depth t
    Tree.jsonFields? embedded? depth (setField read name v) fs

end

/-- Read a value that takes up the whole text, with texts embedded less than `levels` deep. -/
def readWithin : (levels : Nat) → List Char → Option Json
  | 0, _ => none
  | levels + 1, cs => (Tree.read? cs).bind (Tree.json? (readWithin levels) maxDepth)

/-- Read a value that takes up the whole text. An embedded text is shorter than the text around it,
so there are no more levels than characters. -/
def read? (cs : List Char) : Option Json := readWithin (cs.length + 1) cs

end SyncQueue.Json
