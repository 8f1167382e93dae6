import SyncQueue.Json.Value
import SyncQueue.Text.Decimal
import SyncQueue.Uuid

/-!
# Labels of jobs

Scheduling in a scenario takes identifiers from a block set aside for it, in order. Where such an
identifier shows in a report it is replaced by its label, `job#1` for the first, and steps may use
the label for it.
-/

namespace SyncQueue.Scenario.Label

open SyncQueue.Text

/-- The first identifier of the block. -/
def base : Nat := 0xffffffffffff4fffbfff000000000000

/-- The number of identifiers in the block. -/
def count : Nat := Nat.pow 2 48

/-- The identifier of the n-th scheduled job, counted from zero. -/
def id (n : Nat) : Uuid := ⟨BitVec.ofNat 128 (base + n % count)⟩

/-- The label of the n-th scheduled job. -/
def text (n : Nat) : List Char := "job#".toList ++ natDigits (n + 1)

/-- The number of a label. -/
def read? (cs : List Char) : Option Nat :=
  if cs.take 4 = "job#".toList then (digits? (cs.drop 4)).map (· - 1) else none

/-- The identifier that a label or the text of an identifier stands for. -/
def readId? (cs : List Char) : Option Uuid := ((read? cs).map id).or (Uuid.read? cs)

/-- The number of the identifier of the block at the start of a text. -/
def starting? (cs : List Char) : Option Nat := do
  guard (cs.head? = some 'f')
  let u ← Uuid.read? (cs.take 36)
  guard ((cs.take 36).length = 36)
  let n := u.bits.toNat
  guard (base ≤ n && n < base + count)
  return n - base

/-- Replace the identifiers of the block in a text by their labels. -/
def relabel (cs : List Char) : List Char :=
  match cs with
  | [] => []
  | c :: rest =>
    match starting? (c :: rest) with
    | some n => text n ++ relabel (rest.drop 35)
    | none => c :: relabel rest
termination_by cs.length
decreasing_by all_goals (simp only [List.length_drop, List.length_cons]; omega)

/-- Replace the identifiers of the block in a string. -/
def relabelString (s : String) : String := String.ofList (relabel s.toList)

mutual

/-- Replace the identifiers of the block in the strings of a document. -/
def relabelJson : Json → Json
  | .string s => .string (relabelString s)
  | .array items => .array (relabelItems items)
  | .object fields => .object (relabelFields fields)
  | v => v

/-- Replace the identifiers of the block in a list of documents. -/
def relabelItems : List Json → List Json
  | [] => []
  | v :: vs => relabelJson v :: relabelItems vs

/-- Replace the identifiers of the block in the values of fields. -/
def relabelFields : List (String × Json) → List (String × Json)
  | [] => []
  | (name, v) :: fs => (name, relabelJson v) :: relabelFields fs

end

end SyncQueue.Scenario.Label
