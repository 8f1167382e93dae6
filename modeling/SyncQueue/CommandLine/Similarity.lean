import SyncQueue.Number.Binary64

/-!
# Similar words

The Jaro similarity of two words. Characters match when they are equal and stand no farther apart
than half the longer word less one; each is matched at most once, with the first that is free. The
similarity is the mean of the matched parts of both words and of the part of the matches that come
in the same order, computed in binary64 numbers: words that are equally similar in exact arithmetic
may differ in the last bit.
-/

namespace SyncQueue.CommandLine

open Number (Binary64)

/-- The distance at which equal characters of words of two lengths still match. -/
def matchRange (m n : Nat) : Nat := max m n / 2 - 1

/-- The first place in a word that matches a character at place `i` and is not taken. -/
def matchPlace? (range i : Nat) (c : Char) (word : List Char) (taken : List Nat) : Option Nat :=
  (List.range (min word.length (i + range + 1))).find? fun j =>
    decide (i - range ≤ j) && word[j]? = some c && !taken.contains j

/-- The places in `word` that the characters from place `i` on match, in order of the characters. -/
def matchPlaces (range : Nat) (word : List Char) : (i : Nat) → (taken : List Nat) → List Char →
    List Nat
  | _, _, [] => []
  | i, taken, c :: cs =>
    match matchPlace? range i c word taken with
    | some j => j :: matchPlaces range word (i + 1) (j :: taken) cs
    | none => matchPlaces range word (i + 1) taken cs

/-- The places of `word` that are matched, and half the number of those that are out of order. -/
structure Matching where
  size : Nat
  transpositions : Nat
  deriving DecidableEq, Repr

/-- Match the characters of two words. -/
def matching (a b : List Char) : Matching :=
  let places := matchPlaces (matchRange a.length b.length) b 0 [] a
  let sorted := places.mergeSort fun i j => decide (i ≤ j)
  let misplaced := (places.zip sorted).countP fun (i, j) => b[i]? != b[j]?
  ⟨places.length, misplaced / 2⟩

/-- The quotient of two whole numbers. -/
def ratio (m n : Nat) : Binary64 := (Binary64.ofNat m).div (Binary64.ofNat n)

/-- The similarity of two words; zero when no characters match. -/
def similarity (a b : List Char) : Binary64 :=
  let ⟨m, t⟩ := matching a b
  if m = 0 then .zero false
  else
    let total := ((ratio m a.length).add (ratio m b.length)).add (ratio (m - t) m)
    total.div (Binary64.ofNat 3)

/-- The similarity above which words are taken for each other. -/
def similarityBound : Binary64 := ratio 7 10

/-- The most similar of some words, if one is similar enough; of equally similar ones the last. -/
def mostSimilar? {α : Type} (word : α → List Char) (target : List Char) (candidates : List α) :
    Option α :=
  let better (best : Option (α × Binary64)) (c : α) : Option (α × Binary64) :=
    let s := similarity target (word c)
    if s.le similarityBound then best
    else
      match best with
      | none => some (c, s)
      | some (_, t) => if t.le s then some (c, s) else best
  (candidates.foldl better none).map (·.1)

end SyncQueue.CommandLine
