import SyncQueue.Json.Value
import SyncQueue.Number.Shortest

/-!
# Writing JSON values

Two layouts: `compact` writes no white space, `pretty` puts every item and every field on a line of
its own, indented by two spaces a level. Text is escaped only where it must be.
-/

namespace SyncQueue.Json

open SyncQueue.Text

/-- A character inside a JSON string. -/
def escapeChar (c : Char) : List Char :=
  if c = '"' then ['\\', '"']
  else if c = '\\' then ['\\', '\\']
  else if c = '\n' then ['\\', 'n']
  else if c = '\r' then ['\\', 'r']
  else if c = '\t' then ['\\', 't']
  else if c = '\x08' then ['\\', 'b']
  else if c = '\x0c' then ['\\', 'f']
  else if c.toNat < 0x20 then
    ['\\', 'u', '0', '0', Nat.digitChar (c.toNat / 16), Nat.digitChar (c.toNat % 16)]
  else [c]

/-- A string with its quotes. -/
def quoted (s : String) : List Char := '"' :: s.toList.flatMap escapeChar ++ ['"']

/-- Texts with a separator between them. -/
def separated (separator : List Char) : List (List Char) → List Char
  | [] => []
  | [t] => t
  | t :: ts => t ++ separator ++ separated separator ts

/-- A value without parts. -/
def leaf : Json → List Char
  | .null => "null".toList
  | .bool true => "true".toList
  | .bool false => "false".toList
  | .integer i => intDigits i
  | .number x => x.jsonText.toList
  | .string s => quoted s
  | .array _ => "[]".toList
  | .object _ => ['{', '}']

mutual

/-- The text of a value without white space. -/
def compact : Json → List Char
  | .array items => '[' :: separated [','] (compactItems items) ++ [']']
  | .object fields => '{' :: separated [','] (compactFields fields) ++ ['}']
  | v => leaf v

/-- The texts of the items of a list. -/
def compactItems : List Json → List (List Char)
  | [] => []
  | v :: vs => compact v :: compactItems vs

/-- The texts of the fields of a record. -/
def compactFields : List (String × Json) → List (List Char)
  | [] => []
  | (name, v) :: fs => (quoted name ++ ':' :: compact v) :: compactFields fs

end

/-- A line break and the indentation of a level. -/
def newline (level : Nat) : List Char := '\n' :: List.replicate (2 * level) ' '

/-- Bracketed parts on lines of their own. -/
def block (opening closing : Char) (level : Nat) (parts : List (List Char)) : List Char :=
  if parts.isEmpty then [opening, closing]
  else
    opening :: newline (level + 1) ++ separated (',' :: newline (level + 1)) parts ++
      newline level ++ [closing]

mutual

/-- The text of a value with every part on a line of its own. -/
def prettyAt (level : Nat) : Json → List Char
  | .array items => block '[' ']' level (prettyItems (level + 1) items)
  | .object fields => block '{' '}' level (prettyFields (level + 1) fields)
  | v => leaf v

/-- The texts of the items of a list. -/
def prettyItems (level : Nat) : List Json → List (List Char)
  | [] => []
  | v :: vs => prettyAt level v :: prettyItems level vs

/-- The texts of the fields of a record. -/
def prettyFields (level : Nat) : List (String × Json) → List (List Char)
  | [] => []
  | (name, v) :: fs => (quoted name ++ ':' :: ' ' :: prettyAt level v) :: prettyFields level fs

end

/-- The compact text of a value. -/
def compactText (v : Json) : String := String.ofList v.compact

/-- The indented text of a value. -/
def prettyText (v : Json) : String := String.ofList (v.prettyAt 0)

end SyncQueue.Json
