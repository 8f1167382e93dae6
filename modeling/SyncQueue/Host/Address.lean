import SyncQueue.Text.Decimal
import SyncQueue.Text.Split
import SyncQueue.Uuid

/-!
# Numeric addresses of hosts

Addresses of four bytes, in up to four numbers between dots that may be decimal, octal or
hexadecimal, and addresses of sixteen bytes, in groups of hexadecimal digits between colons.
-/

namespace SyncQueue.Host

open SyncQueue.Text

/-! ## Four bytes -/

/-- The number that digits to a base write. -/
def based? (base : Nat) (cs : List Char) : Option Nat :=
  cs.foldlM (fun n c => do
    let d ← Uuid.hexValue? c
    if d < base then some (n * base + d) else none) 0

/-- A number: hexadecimal after `0x`, octal after `0`, or else decimal. Nothing after `0x` is
zero. -/
def number? : List Char → Option Nat
  | [] => none
  | '0' :: 'x' :: cs | '0' :: 'X' :: cs => based? 16 cs
  | ['0'] => some 0
  | '0' :: cs => based? 8 cs
  | cs => based? 10 cs

/-- The labels of a name without an empty one at the end. -/
def withoutEnd (labels : List (List Char)) : List (List Char) :=
  if labels.getLast? = some [] then labels.dropLast else labels

/-- A name whose last label is a number is an address. -/
def isNumeric (labels : List (List Char)) : Bool :=
  match (withoutEnd labels).getLast? with
  | some last => (!last.isEmpty && last.all Char.isDigit) || (number? last).isSome
  | none => false

/-- The labels are an address: each number but the last is a byte, and the last one fills the
rest. -/
def isAddress (labels : List (List Char)) : Bool :=
  let labels := withoutEnd labels
  match labels.mapM number? with
  | some numbers =>
    numbers.length ≤ 4 && numbers.dropLast.all (· ≤ 255) &&
      numbers.getLast?.any (· < Nat.pow 256 (5 - numbers.length))
  | none => false

/-! ## Sixteen bytes -/

/-- One to four hexadecimal digits. -/
def isGroup (cs : List Char) : Bool :=
  1 ≤ cs.length && cs.length ≤ 4 && cs.all fun c => (Uuid.hexValue? c).isSome

/-- A byte in decimal, without leading zeros. -/
def isByte (cs : List Char) : Bool :=
  (digits? cs).any (· ≤ 255) && (cs.length = 1 || cs.head? != some '0')

/-- Four bytes in decimal. -/
def isEmbedded (cs : List Char) : Bool :=
  let parts := splitAll '.' cs
  parts.length = 4 && parts.all isByte

/-- The number of groups between colons. At the end of an address four bytes may stand for two
groups. -/
def groupCount? (atEnd : Bool) (cs : List Char) : Option Nat :=
  if cs.isEmpty then some 0
  else
    let groups := splitAll ':' cs
    if groups.all isGroup then some groups.length
    else if atEnd && groups.dropLast.all isGroup && groups.getLast?.any isEmbedded then
      some (groups.length + 1)
    else none

/-- The text is an address of eight groups, of which one run of zeros may be left out. -/
def isLongAddress (cs : List Char) : Bool :=
  match splitFirst? "::".toList cs with
  | none => groupCount? true cs = some 8
  | some (before, after) =>
    match groupCount? false before, groupCount? true after with
    | some m, some n => decide (m + n < 8)
    | _, _ => false

end SyncQueue.Host
