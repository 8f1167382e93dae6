/-!
# Universally unique identifiers

Identifiers of 128 bits. `text` writes the five groups of lower-case hexadecimal digits; `read?`
also accepts the digits without hyphens, the hyphenated form in braces or after `urn:uuid:`, and
upper-case digits.
-/

namespace SyncQueue

/-- An identifier of 128 bits. -/
structure Uuid where
  bits : BitVec 128
  deriving DecidableEq, Repr, Inhabited

namespace Uuid

/-- A lower-case hexadecimal digit. -/
def hexDigit (n : Nat) : Char := Nat.digitChar n

/-- The value of a hexadecimal digit of either case. -/
def hexValue? (c : Char) : Option Nat :=
  if c.isDigit then some (c.toNat - '0'.toNat)
  else if 'a' ≤ c && c ≤ 'f' then some (c.toNat - 'a'.toNat + 10)
  else if 'A' ≤ c && c ≤ 'F' then some (c.toNat - 'A'.toNat + 10)
  else none

/-- The 32 digits of an identifier. -/
def digits (u : Uuid) : List Char :=
  (List.range 32).map fun i => hexDigit (u.bits.toNat / Nat.pow 16 (31 - i) % 16)

/-- The lengths of the groups of digits. -/
def groups : List Nat := [8, 4, 4, 4, 12]

/-- The lower-case hyphenated text. -/
def text (u : Uuid) : String :=
  let ds := u.digits
  String.ofList (ds.take 8 ++ '-' :: (ds.drop 8).take 4 ++ '-' :: (ds.drop 12).take 4 ++
    '-' :: (ds.drop 16).take 4 ++ '-' :: ds.drop 20)

/-- The identifier with the given 32 digits. -/
def ofDigits? (cs : List Char) : Option Uuid :=
  if cs.length = 32 then
    (cs.foldl (fun acc c => acc.bind fun n => (hexValue? c).map fun d => n * 16 + d) (some 0)).map
      fun n => ⟨BitVec.ofNat 128 n⟩
  else none

/-- Five groups of digits with hyphens between them. -/
def ofHyphenated? (cs : List Char) : Option Uuid :=
  let parts := (String.ofList cs).splitOn "-"
  if parts.map String.length = groups then ofDigits? (parts.flatMap String.toList) else none

/-- Read an identifier in any of its forms. -/
def read? (cs : List Char) : Option Uuid :=
  if cs.length = 32 then ofDigits? cs
  else if cs.length = 38 && cs.head? = some '{' && cs.getLast? = some '}' then
    ofHyphenated? (cs.tail.dropLast)
  else if cs.take 9 = "urn:uuid:".toList then ofHyphenated? (cs.drop 9)
  else ofHyphenated? cs

end Uuid

end SyncQueue
