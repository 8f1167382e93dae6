/-!
# UTF-8

Decoding bytes that need not be valid UTF-8. `pieces` cuts them into characters and broken
stretches; a broken stretch is the longest beginning of an encoded character, or a single byte that
begins none.
-/

namespace SyncQueue.Text.Utf8

/-- A character, or bytes that encode none. -/
inductive Piece where
  | character (c : Char)
  /-- So many bytes, which break off or, at the end of the text, could go on. -/
  | broken (length : Nat) (atEnd : Bool)
  deriving DecidableEq, Repr

/-- What the first byte of an encoded character says. -/
structure Lead where
  /-- The bits of the character in the first byte. -/
  bits : Nat
  /-- The number of bytes that follow. -/
  following : Nat
  /-- The bounds of the second byte. -/
  low : Nat
  high : Nat
  deriving DecidableEq, Repr

/-- Read the first byte of an encoded character. The bounds of the second byte leave out what could
be written shorter, surrogates, and what lies past the last character. -/
def lead? (b : Nat) : Option Lead :=
  if b < 0x80 then some ⟨b, 0, 0x80, 0xbf⟩
  else if b < 0xc2 then none
  else if b < 0xe0 then some ⟨b - 0xc0, 1, 0x80, 0xbf⟩
  else if b < 0xf0 then
    some ⟨b - 0xe0, 2, if b = 0xe0 then 0xa0 else 0x80, if b = 0xed then 0x9f else 0xbf⟩
  else if b < 0xf5 then
    some ⟨b - 0xf0, 3, if b = 0xf0 then 0x90 else 0x80, if b = 0xf4 then 0x8f else 0xbf⟩
  else none

/-- Read the bytes that follow the first one. `seen` counts the bytes of the character so far. -/
def follow (bits seen low high : Nat) : (following : Nat) → List UInt8 → Piece × List UInt8
  | 0, bs => (.character (Char.ofNat bits), bs)
  | _ + 1, [] => (.broken seen true, [])
  | n + 1, b :: bs =>
    if low ≤ b.toNat && b.toNat ≤ high then
      follow (bits * 64 + (b.toNat - 0x80)) (seen + 1) 0x80 0xbf n bs
    else (.broken seen false, b :: bs)

theorem length_follow_le (bits seen low high n : Nat) (bs : List UInt8) :
    (follow bits seen low high n bs).2.length ≤ bs.length := by
  induction n generalizing bits seen low high bs with
  | zero => simp [follow]
  | succ n ih =>
    cases bs with
    | nil => simp [follow]
    | cons b bs =>
      unfold follow
      split
      · exact Nat.le_succ_of_le (ih _ _ _ _ _)
      · simp

/-- Cut bytes into characters and broken stretches. -/
def pieces : List UInt8 → List Piece
  | [] => []
  | b :: bs =>
    match lead? b.toNat with
    | none => .broken 1 false :: pieces bs
    | some l =>
      let next := follow l.bits 1 l.low l.high l.following bs
      next.1 :: pieces next.2
  termination_by bs => bs.length
  decreasing_by
    · simp
    · exact Nat.lt_succ_of_le (length_follow_le _ _ _ _ _ _)

/-- The character that stands for a broken stretch. -/
def replacement : Char := '\uFFFD'

/-- The text of bytes, every broken stretch replaced. -/
def decodeReplacing (bs : List UInt8) : List Char :=
  (pieces bs).map fun
    | .character c => c
    | .broken _ _ => replacement

/-- The length of a piece in bytes. -/
def Piece.size : Piece → Nat
  | character c => c.utf8Size
  | broken length _ => length

/-- Where the first broken stretch begins, and the stretch. -/
def firstBroken? : (offset : Nat) → List Piece → Option (Nat × Nat × Bool)
  | _, [] => none
  | offset, .broken length atEnd :: _ => some (offset, length, atEnd)
  | offset, p :: ps => firstBroken? (offset + p.size) ps

/-- The bytes of a text. -/
def encode (cs : List Char) : List UInt8 := (String.ofList cs).toUTF8.toList

end SyncQueue.Text.Utf8
