import SyncQueue.EnvFile.Lines
import SyncQueue.Text.Alphanumeric

/-!
# Values in an environment file

The value of an assignment is read character by character: quotes are removed, backslashes escape,
and `$name` and `${name}` stand for the value of a variable. Between single quotes every character
stands for itself. A name of letters and digits ends at the first other character, and that
character stands for itself, be it a quote.
-/

namespace SyncQueue.EnvFile

open SyncQueue.Text

/-- What the next character of a value is read as. -/
inductive ValueMode where
  /-- Text, or the beginning of something else. -/
  | text
  /-- The character after a backslash. -/
  | escaped
  /-- Text between single quotes. -/
  | strong
  /-- The name of a variable, in braces or not, of which some characters have been read. -/
  | name (braced : Bool) (read : List Char)
  /-- A blank or a comment after the value. -/
  | ended
  deriving DecidableEq, Repr

/-- The character that an escaped character stands for. -/
def unescape? : Char → Option Char
  | '\\' => some '\\'
  | '\'' => some '\''
  | '"' => some '"'
  | '$' => some '$'
  | ' ' => some ' '
  | 'n' => some '\n'
  | _ => none

/-- The value may end in a mode. -/
def ValueMode.mayEnd : ValueMode → Bool
  | .strong => false
  | .name braced _ => !braced
  | _ => true

/-- Read a value from its `index`-th character on: in a mode, and between double quotes or not. An
error is the index of a character, or `last` when the text ends within quotes or braces. -/
def valueFrom (resolve : List Char → List Char) (last : Nat) :
    (index : Nat) → (weak : Bool) → ValueMode → List Char → Except Nat (List Char)
  | _, weak, mode, [] =>
    if weak || !mode.mayEnd then .error last
    else
      match mode with
      | .name _ name => .ok (resolve name)
      | _ => .ok []
  | index, weak, mode, c :: cs =>
    let read (weak : Bool) (mode : ValueMode) := valueFrom resolve last (index + 1) weak mode cs
    match mode with
    | .ended =>
      if c = ' ' || c = '\t' then read weak .ended
      else if c = '#' then .ok []
      else .error index
    | .escaped =>
      match unescape? c with
      | some d => (read weak .text).map (d :: ·)
      | none => .error index
    | .strong => if c = '\'' then read weak .text else (read weak .strong).map (c :: ·)
    | .name braced name =>
      if isAlphanumeric c then read weak (.name braced (name ++ [c]))
      else if braced then
        if c = '}' then (read weak .text).map (resolve name ++ ·)
        else read weak (.name true (name ++ [c]))
      else if c = '{' && name.isEmpty then read weak (.name true [])
      else if c = '$' then (read weak (.name false [])).map (resolve name ++ ·)
      else (read weak .text).map (resolve name ++ c :: ·)
    | .text =>
      if c = '$' then read weak (.name false [])
      else if c = '\\' then read weak .escaped
      else if weak then if c = '"' then read false .text else (read true .text).map (c :: ·)
      else if c = '\'' then read false .strong
      else if c = '"' then read true .text
      else if c = ' ' || c = '\t' then read false .ended
      else (read false .text).map (c :: ·)

/-- Read a value, given the values of variables. -/
def value (resolve : List Char → List Char) (cs : List Char) : Except EnvFileError (List Char) :=
  match valueFrom resolve (byteLength cs - 1) 0 false .text cs with
  | .ok v => .ok v
  | .error index => .error (.malformed (String.ofList cs) index)

end SyncQueue.EnvFile
