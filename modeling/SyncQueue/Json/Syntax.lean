import SyncQueue.Json.Value
import SyncQueue.Uuid

/-!
# The syntax of JSON

A text is read as a tree whose numbers are still text and whose strings may fail to denote one: an
escape can name half of a surrogate pair. A reader that skips part of a document takes the tree as
it is; one that wants a value asks for it. `Tree.read?` reads a whole text.
-/

namespace SyncQueue.Json

/-- A JSON number as written: a sign, the digits before the point, those after it, and the sign and
digits of the exponent. -/
structure NumberText where
  negative : Bool
  whole : List Char
  fraction : Option (List Char)
  exponent : Option (Bool × List Char)
  deriving DecidableEq, Repr

/-- A JSON text. A string is none when its escapes denote no text. -/
inductive Tree where
  | null
  | bool (b : Bool)
  | number (n : NumberText)
  | string (s : Option String)
  | array (items : List Tree)
  | object (fields : List (Option String × Tree))
  deriving Repr, Inhabited

namespace Tree

/-- White space between tokens. -/
def isSpace (c : Char) : Bool := c = ' ' || c = '\n' || c = '\t' || c = '\r'

/-- Skip white space. -/
def skip (cs : List Char) : List Char := cs.dropWhile isSpace

/-! ## Strings -/

/-- The character of a one-letter escape. -/
def simpleEscape? : Char → Option Char
  | '"' => some '"'
  | '\\' => some '\\'
  | '/' => some '/'
  | 'b' => some '\x08'
  | 'f' => some '\x0c'
  | 'n' => some '\n'
  | 'r' => some '\r'
  | 't' => some '\t'
  | _ => none

/-- The number with four hexadecimal digits. -/
def hex4? (a b c d : Char) : Option Nat := do
  let a ← Uuid.hexValue? a
  let b ← Uuid.hexValue? b
  let c ← Uuid.hexValue? c
  let d ← Uuid.hexValue? d
  return ((a * 16 + b) * 16 + c) * 16 + d

/-- The code units of a string after its opening quote, and the text after its closing quote. A
character that is not escaped is one unit. Control characters must be escaped. -/
def units? : List Char → Option (List Nat × List Char)
  | [] => none
  | '"' :: cs => some ([], cs)
  | '\\' :: 'u' :: a :: b :: c :: d :: cs => do
    let u ← hex4? a b c d
    let (us, rest) ← units? cs
    return (u :: us, rest)
  | '\\' :: e :: cs => do
    let c ← simpleEscape? e
    let (us, rest) ← units? cs
    return (c.toNat :: us, rest)
  | c :: cs =>
    if c.toNat < 0x20 || c = '\\' then none
    else do
      let (us, rest) ← units? cs
      return (c.toNat :: us, rest)

/-- The first half of a surrogate pair. -/
def isHigh (u : Nat) : Bool := 0xd800 ≤ u && u ≤ 0xdbff

/-- The second half of a surrogate pair. -/
def isLow (u : Nat) : Bool := 0xdc00 ≤ u && u ≤ 0xdfff

/-- The characters of code units, pairs of surrogates joined; none when half of a pair stands
alone. -/
def chars? : List Nat → Option (List Char)
  | [] => some []
  | [u] => if isHigh u || isLow u then none else some [Char.ofNat u]
  | u :: v :: us =>
    if isHigh u then
      if isLow v then
        (chars? us).map (Char.ofNat (0x10000 + (u - 0xd800) * 0x400 + (v - 0xdc00)) :: ·)
      else none
    else if isLow u then none
    else (chars? (v :: us)).map (Char.ofNat u :: ·)

/-- A string after its opening quote. -/
def string? (cs : List Char) : Option (Option String × List Char) :=
  (units? cs).map fun (us, rest) => ((chars? us).map String.ofList, rest)

/-! ## Numbers -/

/-- One or more digits. -/
def digits1? (cs : List Char) : Option (List Char × List Char) :=
  let (ds, rest) := cs.span Char.isDigit
  if ds.isEmpty then none else some (ds, rest)

/-- The digits before the point: a zero alone, or digits that do not begin with zero. -/
def whole? (cs : List Char) : Option (List Char × List Char) := do
  let (ds, rest) ← digits1? cs
  if ds.head? = some '0' && ds.length != 1 then none else some (ds, rest)

/-- A point and digits, if there is a point. -/
def fraction? : List Char → Option (Option (List Char) × List Char)
  | '.' :: cs => (digits1? cs).map fun (ds, rest) => (some ds, rest)
  | cs => some (none, cs)

/-- The sign and digits of an exponent after its letter. -/
def exponentDigits? : List Char → Option (Option (Bool × List Char) × List Char)
  | '+' :: cs => (digits1? cs).map fun (ds, rest) => (some (false, ds), rest)
  | '-' :: cs => (digits1? cs).map fun (ds, rest) => (some (true, ds), rest)
  | cs => (digits1? cs).map fun (ds, rest) => (some (false, ds), rest)

/-- An exponent, if there is one. -/
def exponent? : List Char → Option (Option (Bool × List Char) × List Char)
  | 'e' :: cs => exponentDigits? cs
  | 'E' :: cs => exponentDigits? cs
  | cs => some (none, cs)

/-- A number after its sign. -/
def unsigned? (negative : Bool) (cs : List Char) : Option (NumberText × List Char) := do
  let (whole, cs) ← whole? cs
  let (fraction, cs) ← fraction? cs
  let (exponent, cs) ← exponent? cs
  return (⟨negative, whole, fraction, exponent⟩, cs)

/-- A number. -/
def number? : List Char → Option (NumberText × List Char)
  | '-' :: cs => unsigned? true cs
  | cs => unsigned? false cs

/-! ## Values -/

mutual

/-- A value at the start of a text, nested at most `fuel` deep. -/
def value? : Nat → List Char → Option (Tree × List Char)
  | 0, _ => none
  | fuel + 1, cs =>
    match cs with
    | 'n' :: 'u' :: 'l' :: 'l' :: rest => some (.null, rest)
    | 't' :: 'r' :: 'u' :: 'e' :: rest => some (.bool true, rest)
    | 'f' :: 'a' :: 'l' :: 's' :: 'e' :: rest => some (.bool false, rest)
    | '"' :: rest => (string? rest).map fun (s, rest) => (.string s, rest)
    | '[' :: rest =>
      match skip rest with
      | ']' :: rest => some (.array [], rest)
      | rest => (items? fuel rest).map fun (items, rest) => (.array items, rest)
    | '{' :: rest =>
      match skip rest with
      | '}' :: rest => some (.object [], rest)
      | rest => (fields? fuel rest).map fun (fields, rest) => (.object fields, rest)
    | cs => (number? cs).map fun (n, rest) => (.number n, rest)

/-- The items of a list up to its closing bracket. -/
def items? : Nat → List Char → Option (List Tree × List Char)
  | 0, _ => none
  | fuel + 1, cs => do
    let (item, cs) ← value? fuel cs
    match skip cs with
    | ',' :: cs =>
      let (items, cs) ← items? fuel (skip cs)
      return (item :: items, cs)
    | ']' :: cs => return ([item], cs)
    | _ => none

/-- The fields of a record up to its closing brace. -/
def fields? : Nat → List Char → Option (List (Option String × Tree) × List Char)
  | 0, _ => none
  | fuel + 1, cs =>
    match cs with
    | '"' :: cs => do
      let (name, cs) ← string? cs
      match skip cs with
      | ':' :: cs =>
        let (value, cs) ← value? fuel (skip cs)
        match skip cs with
        | ',' :: cs =>
          let (fields, cs) ← fields? fuel (skip cs)
          return ((name, value) :: fields, cs)
        | '}' :: cs => return ([(name, value)], cs)
        | _ => none
      | _ => none
    | _ => none

end

/-- Read a whole text: one value with nothing but white space around it. -/
def read? (cs : List Char) : Option Tree := do
  let (tree, rest) ← value? (cs.length + 1) (skip cs)
  if (skip rest).isEmpty then some tree else none

end Tree

end SyncQueue.Json
