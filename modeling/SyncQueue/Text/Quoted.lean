import SyncQueue.Text.Printable

/-!
# Quoted texts

A text between double quotes, as messages show it: quotes, backslashes and characters that do not
show by themselves are written as escapes.
-/

namespace SyncQueue.Text

/-- A character between double quotes. -/
def escaped (c : Char) : List Char :=
  match c with
  | '"' => ['\\', '"']
  | '\\' => ['\\', '\\']
  | '\n' => ['\\', 'n']
  | '\r' => ['\\', 'r']
  | '\t' => ['\\', 't']
  | '\x00' => ['\\', '0']
  | c => if isPrintable c then [c] else "\\u\x7b".toList ++ Nat.toDigits 16 c.toNat ++ ['}']

/-- A text between double quotes. -/
def quoted (cs : List Char) : String := String.ofList ('"' :: cs.flatMap escaped ++ ['"'])

end SyncQueue.Text
