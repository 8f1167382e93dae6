import SyncQueue.Text.Pattern
import SyncQueue.Text.Split
import SyncQueue.Uuid

/-!
# Reading patterns

The usual notation of patterns: `.` for any character but a line break, classes in square brackets,
groups in parentheses, alternatives between bars, and the repetitions `*`, `+` and `?`, each
followed by another `?` if fewer are preferred. There are no classes of Unicode, no boundaries of
words, no counted repetitions and no flags.
-/

namespace SyncQueue.Text.Pattern

/-! ## Characters -/

/-- The character may stand after a backslash for itself. -/
def isEscapable (c : Char) : Bool :=
  decide (c.toNat < 0x80) && !c.isAlphanum && c != '<' && c != '>'

/-- The character with a code in hexadecimal. -/
def coded? (digits : List Char) : Option Char := do
  let values ← digits.mapM Uuid.hexValue?
  let code := values.foldl (fun n v => n * 16 + v) 0
  if code.isValidChar then some (Char.ofNat code) else none

/-- The number of digits in the code after a letter. -/
def codeLength? : Char → Option Nat
  | 'x' => some 2
  | 'u' => some 4
  | 'U' => some 8
  | _ => none

/-- The character that a letter after a backslash stands for. -/
def control? : Char → Option Char
  | 'a' => some '\x07'
  | 'f' => some '\x0c'
  | 't' => some '\t'
  | 'n' => some '\n'
  | 'r' => some '\r'
  | 'v' => some '\x0b'
  | _ => none

/-- The character after a backslash, and the text after it. -/
def escaped? : List Char → Option (Char × List Char)
  | [] => none
  | c :: cs =>
    if isEscapable c then some (c, cs)
    else
      match codeLength? c with
      | some n => do
        guard (n ≤ cs.length)
        return (← coded? (cs.take n), cs.drop n)
      | none => (control? c).map (·, cs)

/-! ## Classes -/

/-- The sets with names. -/
def named? (name : String) : Option CharSet :=
  let upper := CharSet.range 'A' 'Z'
  let lower := CharSet.range 'a' 'z'
  let digit := CharSet.range '0' '9'
  let letters := upper.union lower
  match name with
  | "alnum" => some (letters.union digit)
  | "alpha" => some letters
  | "ascii" => some (.range '\x00' '\x7f')
  | "blank" => some ((CharSet.single ' ').union (.single '\t'))
  | "cntrl" => some ((CharSet.range '\x00' '\x1f').union (.single '\x7f'))
  | "digit" => some digit
  | "graph" => some (.range '!' '~')
  | "lower" => some lower
  | "print" => some (.range ' ' '~')
  | "punct" => some ((CharSet.range '!' '~').difference (letters.union digit))
  | "space" => some ((CharSet.single ' ').union (.range '\t' '\r'))
  | "upper" => some upper
  | "word" => some ((letters.union digit).union (.single '_'))
  | "xdigit" => some (digit.union ((CharSet.range 'A' 'F').union (.range 'a' 'f')))
  | _ => none

/-- A set with a name, after `[:`. -/
def namedClass? (cs : List Char) : Option (CharSet × List Char) := do
  let (isNegated, cs) := match cs with
    | '^' :: cs => (true, cs)
    | cs => (false, cs)
  let (name, rest) ← splitFirst? ":]".toList cs
  let s ← named? (String.ofList name)
  return (if isNegated then .complement s else s, rest)

/-- How two sets in a class are combined. -/
inductive Combination where
  | intersection
  | difference
  | symmetricDifference
  deriving DecidableEq, Repr

/-- The set that a combination makes. -/
def Combination.apply : Combination → CharSet → CharSet → CharSet
  | intersection => .intersection
  | difference => .difference
  | symmetricDifference => .symmetricDifference

/-- A combination at the start of a text. -/
def combination? : List Char → Option (Combination × List Char)
  | '&' :: '&' :: cs => some (.intersection, cs)
  | '-' :: '-' :: cs => some (.difference, cs)
  | '~' :: '~' :: cs => some (.symmetricDifference, cs)
  | _ => none

/-- A character of a class, possibly escaped. -/
def member? : List Char → Option (Char × List Char)
  | '\\' :: cs => escaped? cs
  | c :: cs => some (c, cs)
  | [] => none

/-- A character of a class or a range of characters. -/
def members? (cs : List Char) : Option (CharSet × List Char) := do
  let (first, cs) ← member? cs
  match cs with
  | '-' :: ']' :: _ | '-' :: '-' :: _ => return (.single first, cs)
  | '-' :: cs =>
    let (last, cs) ← member? cs
    if first ≤ last then return (.range first last, cs) else none
  | cs => return (.single first, cs)

/-- What stands before in a class: a set and how it is to be combined, and the sets since then. -/
structure ClassDraft where
  combined : Option (CharSet × Combination)
  current : CharSet

/-- The set of all that has been read. -/
def ClassDraft.set (d : ClassDraft) : CharSet :=
  match d.combined with
  | some (s, combination) => combination.apply s d.current
  | none => d.current

/-- Add a set. -/
def ClassDraft.add (d : ClassDraft) (s : CharSet) : ClassDraft :=
  { d with current := d.current.union s }

/-- The beginning of a class after its bracket: whether it is negated, and the hyphens and the
closing bracket that stand for themselves there. -/
def openClass (cs : List Char) : Bool × ClassDraft × List Char :=
  let (isNegated, cs) := match cs with
    | '^' :: cs => (true, cs)
    | cs => (false, cs)
  let rest := cs.dropWhile (· = '-')
  let hyphens := if rest.length < cs.length then CharSet.single '-' else .none
  match hyphens, rest with
  | .none, ']' :: rest => (isNegated, ⟨none, .single ']'⟩, rest)
  | hyphens, rest => (isNegated, ⟨none, hyphens⟩, rest)

/-- A class up to its closing bracket, in at most `fuel` parts. -/
def class? : (fuel : Nat) → (isNegated : Bool) → ClassDraft → List Char →
    Option (CharSet × List Char)
  | 0, _, _, _ | _, _, _, [] => none
  | fuel + 1, isNegated, d, c :: cs =>
    if c = ']' then some (if isNegated then .complement d.set else d.set, cs)
    else if c = '[' then
      match (after? [':'] cs).bind namedClass? with
      | some (s, rest) => class? fuel isNegated (d.add s) rest
      | none => do
        let (isNegated', d', rest) := openClass cs
        let (s, rest) ← class? fuel isNegated' d' rest
        class? fuel isNegated (d.add s) rest
    else
      match combination? (c :: cs) with
      | some (combination, rest) =>
        class? fuel isNegated ⟨some (d.set, combination), .none⟩ rest
      | none => do
        let (s, rest) ← members? (c :: cs)
        class? fuel isNegated (d.add s) rest

/-! ## Patterns -/

/-- The character may begin the name of a group. -/
def beginsName (c : Char) : Bool := c = '_' || c.isAlpha

/-- The text of a group after its parenthesis and its name; none when it has flags. -/
def groupBody? (cs : List Char) : Option (List Char) :=
  match cs with
  | '?' :: ':' :: cs => some cs
  | '?' :: cs => do
    let named ← (after? "P<".toList cs).or (after? "<".toList cs)
    let (name, rest) ← splitFirst? ['>'] named
    guard (name.head?.any beginsName &&
      name.all fun c => beginsName c || c.isDigit || ".[]".toList.contains c)
    return rest
  | cs => some cs

/-- A pattern that is not repeated, a group aside. -/
def simple? : List Char → Option (Pattern × List Char)
  | '.' :: cs => some (.one (.complement (.single '\n')), cs)
  | '^' :: cs | '\\' :: 'A' :: cs => some (.start, cs)
  | '$' :: cs | '\\' :: 'z' :: cs => some (.stop, cs)
  | '\\' :: cs => (escaped? cs).map fun (c, cs) => (.one (.single c), cs)
  | '[' :: cs =>
    let (isNegated, d, rest) := openClass cs
    (class? (cs.length + 1) isNegated d rest).map fun (s, cs) => (.one s, cs)
  | c :: cs => if "*+?\x7b)|".toList.contains c then none else some (.one (.single c), cs)
  | [] => none

/-- Whether more are preferred, after a repetition. -/
def greed : List Char → Bool × List Char
  | '?' :: cs => (false, cs)
  | cs => (true, cs)

/-- Repeat a pattern as what follows says, at most `fuel` times. -/
def repetitions : (fuel : Nat) → Pattern → List Char → Pattern × List Char
  | 0, p, cs => (p, cs)
  | fuel + 1, p, cs =>
    match cs with
    | '*' :: cs => let (greedy, cs) := greed cs; repetitions fuel (star greedy p) cs
    | '+' :: cs => let (greedy, cs) := greed cs; repetitions fuel (repeated greedy p) cs
    | '?' :: cs => let (greedy, cs) := greed cs; repetitions fuel (optional greedy p) cs
    | cs => (p, cs)

/-- Alternatives up to the end of the text or a closing parenthesis, in at most `fuel` parts. `done`
holds the alternatives read, and `current` what has been read of the last one. -/
def alternatives? : (fuel : Nat) → (done : Option Pattern) → (current : Pattern) → List Char →
    Option (Pattern × List Char)
  | 0, _, _, _ => none
  | fuel + 1, done, current, cs =>
    let all := match done with
      | some p => either p current
      | none => current
    match cs with
    | [] => some (all, [])
    | ')' :: _ => some (all, cs)
    | '|' :: cs => alternatives? fuel (some all) .empty cs
    | '(' :: cs => do
      let body ← groupBody? cs
      match ← alternatives? fuel none .empty body with
      | (p, ')' :: cs) =>
        let (p, cs) := repetitions cs.length p cs
        alternatives? fuel done (seq current p) cs
      | _ => none
    | cs => do
      let (p, cs) ← simple? cs
      let (p, cs) := repetitions cs.length p cs
      alternatives? fuel done (seq current p) cs

/-- Read a pattern. -/
def read? (cs : List Char) : Option Pattern :=
  match alternatives? (cs.length + 1) none .empty cs with
  | some (p, []) => some p
  | _ => none

end SyncQueue.Text.Pattern
