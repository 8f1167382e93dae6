import SyncQueue.Text.Decimal
import SyncQueue.Text.Split
import SyncQueue.Text.Utf8
import SyncQueue.Uuid

/-!
# Percent-encoding

A `%` with two hexadecimal digits stands for a byte; every other byte stands for itself. In the
pairs of a query a plus sign stands for a blank as well.
-/

namespace SyncQueue.Text.Percent

/-- The value of an ASCII hexadecimal digit. -/
def hexValue? (b : UInt8) : Option Nat := Uuid.hexValue? (Char.ofNat b.toNat)

/-- The bytes that encoded bytes stand for. -/
def decodeBytes : List UInt8 → List UInt8
  | [] => []
  | b :: h :: l :: bs =>
    if b = 0x25 then
      match hexValue? h, hexValue? l with
      | some h, some l => UInt8.ofNat (h * 16 + l) :: decodeBytes bs
      | _, _ => b :: decodeBytes (h :: l :: bs)
    else b :: decodeBytes (h :: l :: bs)
  | b :: bs => b :: decodeBytes bs

/-- The bytes that an encoded text stands for. -/
def decode (cs : List Char) : List UInt8 := decodeBytes (Utf8.encode cs)

/-- Why decoded bytes are no text. -/
def brokenMessage (start length : Nat) (atEnd : Bool) : String :=
  let place := " from index " ++ String.ofList (natDigits start)
  if atEnd then "incomplete utf-8 byte sequence" ++ place
  else "invalid utf-8 sequence of " ++ String.ofList (natDigits length) ++ " bytes" ++ place

/-- The text that an encoded text stands for, or why there is none. -/
def decodeText (cs : List Char) : Except String (List Char) :=
  let bs := decode cs
  match Utf8.firstBroken? 0 (Utf8.pieces bs) with
  | none => .ok (Utf8.decodeReplacing bs)
  | some (start, length, atEnd) => .error (brokenMessage start length atEnd)

/-- A name or a value in a query. -/
def decodeField (cs : List Char) : List Char :=
  Utf8.decodeReplacing (decode (cs.map fun c => if c = '+' then ' ' else c))

/-- The pairs of a query: `&` separates them, and the first `=` of each ends its name. -/
def pairs (cs : List Char) : List (List Char × List Char) :=
  (((String.ofList cs).splitOn "&").filter (!·.isEmpty)).map fun part =>
    let (name, value) := (splitFirst? ['='] part.toList).getD (part.toList, [])
    (decodeField name, decodeField value)

end SyncQueue.Text.Percent
