import SyncQueue.Text.Blank
import SyncQueue.Text.Decimal

/-!
# Lines of an environment file

A file is a sequence of physical lines. Quotes and backslashes join them to logical lines, and a `#`
after a blank begins a comment that ends a logical line. `logicalLines` gives the logical lines in
order, up to the first that cannot be had.
-/

namespace SyncQueue.EnvFile

open SyncQueue.Text

/-- What is wrong with an environment file. -/
inductive EnvFileError where
  /-- A line does not follow the grammar, seen at an index. -/
  | malformed (text : String) (index : Nat)
  /-- A line is not text. -/
  | notText
  /-- The file cannot be read. -/
  | unreadable (cause : String)
  deriving DecidableEq, Repr

/-- The wording of an error. -/
def EnvFileError.message : EnvFileError → String
  | malformed text index =>
    "Error parsing line: '" ++ text ++ "', error at line index: " ++
      String.ofList (natDigits index)
  | notText => "stream did not contain valid UTF-8"
  | unreadable cause => cause

/-- The texts of an error and of the faults behind it. -/
def EnvFileError.causes (e : EnvFileError) : List String :=
  match e with
  | malformed _ _ => [e.message]
  | notText | unreadable _ => [e.message, e.message]

/-- The length of a text in UTF-8. -/
def byteLength (cs : List Char) : Nat := cs.foldr (fun c n => c.utf8Size + n) 0

/-- How far a logical line has come. -/
inductive LineState where
  /-- It may end here. -/
  | complete
  /-- After a blank. -/
  | blank
  /-- After a backslash. -/
  | escape
  /-- Between double quotes. -/
  | weak
  /-- After a backslash between double quotes. -/
  | weakEscape
  /-- Between single quotes. -/
  | strong
  /-- After a backslash between single quotes. -/
  | strongEscape
  deriving DecidableEq, Repr

/-- The state after a character outside quotes that opens something. -/
def LineState.opened? : Char → Option LineState
  | '\\' => some .escape
  | '"' => some .weak
  | '\'' => some .strong
  | _ => none

/-- The state after a character; none when a comment begins. -/
def LineState.next? (s : LineState) (c : Char) : Option LineState :=
  match s with
  | .complete =>
    if isBlank c && c != '\n' && c != '\r' then some .blank else some ((opened? c).getD .complete)
  | .blank => if c = '#' then none else some ((opened? c).getD .complete)
  | .escape => some .complete
  | .weak => some (if c = '\\' then .weakEscape else if c = '"' then .complete else .weak)
  | .weakEscape => some .weak
  | .strong => some (if c = '\\' then .strongEscape else if c = '\'' then .complete else .strong)
  | .strongEscape => some .strong

/-- What a physical line comes to. -/
inductive Scan where
  | state (s : LineState)
  /-- A comment begins after some characters. -/
  | comment (before : List Char)
  deriving DecidableEq, Repr

/-- Go through a physical line. -/
def scan : LineState → List Char → Scan
  | s, [] => .state s
  | s, c :: cs =>
    match s.next? c with
    | none => .comment []
    | some s =>
      match scan s cs with
      | .comment before => .comment (c :: before)
      | .state s => .state s

/-- A line without its line break. -/
def dropLineBreak (cs : List Char) : List Char :=
  match cs.reverse with
  | '\n' :: '\r' :: rest => rest.reverse
  | '\n' :: rest => rest.reverse
  | _ => cs

/-- The logical lines of physical lines, after the physical lines read so far for the first of them.
A physical line is none when it is not text. -/
def gather (read : List Char) (s : LineState) :
    List (Option (List Char)) → List (Except EnvFileError (List Char))
  | [] =>
    if s = .complete then [] else [.error (.malformed (String.ofList read) (byteLength read))]
  | none :: _ => [.error .notText]
  | some line :: rest =>
    if (trimStart (read ++ line)).head? = some '#' then .ok [] :: gather [] .complete rest
    else
      match scan s line with
      | .comment before => .ok (read ++ before) :: gather [] .complete rest
      | .state .complete => .ok (dropLineBreak (read ++ line)) :: gather [] .complete rest
      | .state s => gather (read ++ line) s rest

/-- The logical lines of physical lines. -/
def logicalLines (lines : List (Option (List Char))) : List (Except EnvFileError (List Char)) :=
  gather [] .complete lines

/-! ## Physical lines -/

/-- Bytes split after every line break. -/
def splitBytes : List UInt8 → List (List UInt8)
  | [] => []
  | b :: bs =>
    if b = 10 then [b] :: splitBytes bs
    else
      match splitBytes bs with
      | [] => [[b]]
      | line :: lines => (b :: line) :: lines

/-- The physical lines of a file, each with its line break. -/
def physicalLines (bytes : ByteArray) : List (Option (List Char)) :=
  (splitBytes bytes.toList).map fun line =>
    (String.fromUTF8? ⟨line.toArray⟩).map String.toList

end SyncQueue.EnvFile
