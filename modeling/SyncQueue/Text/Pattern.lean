/-!
# Patterns

Patterns of texts. Of the ways in which a pattern matches the beginning of a text the preferred one
counts: the left alternative before the right one, and as many repetitions as possible, or as few.
`Pattern.covers` says whether the preferred match is the whole text.

A text is followed character by character along *threads*, each a list of patterns that are still to
come one after the other. Threads are kept in the order of preference; once a thread has nothing to
come, it is a match, and those after it are given up.
-/

namespace SyncQueue.Text

/-- A set of characters. -/
inductive CharSet where
  | none
  /-- The characters from one to another. -/
  | range (first last : Char)
  | complement (s : CharSet)
  | union (s t : CharSet)
  | intersection (s t : CharSet)
  | difference (s t : CharSet)
  deriving DecidableEq, Repr

namespace CharSet

/-- The set contains a character. -/
def contains (c : Char) : CharSet → Bool
  | none => false
  | range first last => first ≤ c && c ≤ last
  | complement s => !s.contains c
  | union s t => s.contains c || t.contains c
  | intersection s t => s.contains c && t.contains c
  | difference s t => s.contains c && !t.contains c

/-- The set of one character. -/
def single (c : Char) : CharSet := range c c

/-- The characters that are in one of two sets but not in both. -/
def symmetricDifference (s t : CharSet) : CharSet := union (difference s t) (difference t s)

end CharSet

/-- A pattern. -/
inductive Pattern where
  | empty
  | one (s : CharSet)
  /-- The beginning of the text. -/
  | start
  /-- The end of the text. -/
  | stop
  | seq (p q : Pattern)
  /-- Either pattern, the left one preferred. -/
  | either (p q : Pattern)
  /-- One or more times; greedy repetition prefers more. -/
  | repeated (greedy : Bool) (p : Pattern)
  /-- What follows one time of a repetition: further times, or nothing. -/
  | continued (greedy : Bool) (p : Pattern)
  deriving DecidableEq, Repr

namespace Pattern

/-- The pattern or nothing, preferred in this order if greedy. -/
def optional (greedy : Bool) (p : Pattern) : Pattern :=
  if greedy then either p empty else either empty p

/-- Any number of times. -/
def star (greedy : Bool) (p : Pattern) : Pattern := optional greedy (repeated greedy p)

/-- The number of patterns in a pattern. -/
def size : Pattern → Nat
  | empty | one _ | start | stop => 1
  | seq p q | either p q => p.size + q.size + 1
  | repeated _ p | continued _ p => p.size + 1

/-- Patterns that are to come one after the other. -/
abbrev Thread := List Pattern

/-- What to look at instead of a thread before the next character: the threads that it becomes, in
order of preference; none when it waits for a character or has ended. -/
def unrolled? (atStart atEnd : Bool) : Thread → Option (List Thread)
  | [] | one _ :: _ => none
  | empty :: k => some [k]
  | start :: k => some (if atStart then [k] else [])
  | stop :: k => some (if atEnd then [k] else [])
  | seq p q :: k => some [p :: q :: k]
  | either p q :: k => some [p :: k, q :: k]
  | repeated greedy p :: k => some [p :: continued greedy p :: k]
  | continued greedy p :: k =>
    some (if greedy then [repeated greedy p :: k, k] else [k, repeated greedy p :: k])

/-- The threads that wait for a character or have ended, in order of preference and each only once.
`seen` holds the threads looked at, and each step looks at one. -/
def waiting (atStart atEnd : Bool) : (steps : Nat) → (seen : List Thread) → List Thread →
    List Thread
  | 0, _, _ | _, _, [] => []
  | steps + 1, seen, t :: ts =>
    if seen.contains t then waiting atStart atEnd steps seen ts
    else
      match unrolled? atStart atEnd t with
      | some us => waiting atStart atEnd steps (t :: seen) (us ++ ts)
      | none => t :: waiting atStart atEnd steps (t :: seen) ts

/-- What is left of a thread after a character. -/
def restAfter? (c : Char) : Thread → Option Thread
  | one s :: k => if s.contains c then some k else none
  | _ => none

/-- The preferred threads up to the first one that has ended. -/
def preferred (ts : List Thread) : List Thread := ts.takeWhile (!·.isEmpty)

/-- The preferred match of some threads ends at the end of a text. Each part of a pattern occurs in
at most one thread, and a repetition gives rise to one part more. -/
def ends (p : Pattern) (atStart : Bool) (ts : List Thread) : List Char → Bool
  | [] => (waiting atStart true (8 * p.size + ts.length + 8) [] ts).contains []
  | c :: cs =>
    let waiting := waiting atStart false (8 * p.size + ts.length + 8) [] ts
    ends p false ((preferred waiting).filterMap (restAfter? c)) cs

/-- The preferred match of the pattern at the beginning of a text is the whole text. -/
def covers (p : Pattern) (cs : List Char) : Bool := ends p true [[p]] cs

end Pattern

end SyncQueue.Text
