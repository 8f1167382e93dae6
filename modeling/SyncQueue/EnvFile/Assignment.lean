import SyncQueue.EnvFile.Environment
import SyncQueue.EnvFile.Value

/-!
# Assignments in an environment file

A logical line is blank, a comment, or an assignment `name = value`, which may follow the word
`export`. `assignments` gives the assignments of a whole file. A value may refer to variables of the
process and, when there is none of the name, to names assigned earlier in the file.
-/

namespace SyncQueue.EnvFile

open SyncQueue.Text

/-- A name with its value. -/
structure Assignment where
  name : String
  value : String
  deriving DecidableEq, Repr

/-- The value of a variable in a file: that of the process, else the last one assigned so far, else
nothing. -/
def resolve (process : Environment) (assigned : List Assignment) (name : List Char) : List Char :=
  match process.value? name with
  | some v => v
  | none => ((assigned.reverse.find? (·.name = String.ofList name)).map (·.value.toList)).getD []

/-- A character that may begin a name. -/
def isNameStart (c : Char) : Bool := c.isAlpha || c = '_'

/-- A character that may continue a name. -/
def isNamePart (c : Char) : Bool := c.isAlphanum || c = '_' || c = '.'

/-- A name and the text after it. -/
def name? (cs : List Char) : Option (List Char × List Char) :=
  if cs.head?.any isNameStart then some (cs.span isNamePart) else none

/-- The name and the text of the value of an assignment, without the blanks around the equals sign,
or the text at which the line goes wrong. -/
def sides (cs : List Char) : Except (List Char) (List Char × List Char) := do
  let nameAt (cs : List Char) : Except (List Char) (List Char × List Char) :=
    match name? cs with
    | some (name, rest) => .ok (name, trimStart rest)
    | none => .error cs
  let (name, rest) ← nameAt cs
  let (name, rest) ←
    if name = "export".toList && rest.head? != some '=' then nameAt rest else pure (name, rest)
  match rest with
  | '=' :: rest => return (name, trimStart rest)
  | _ => throw rest

/-- Read a logical line; none when it assigns nothing. The index of an error counts bytes. -/
def assignment? (resolve : List Char → List Char) (line : List Char) :
    Except EnvFileError (Option Assignment) :=
  let cs := trimEnd line
  let isOver (cs : List Char) : Bool := cs.isEmpty || cs.head? = some '#'
  if isOver (trimStart cs) then .ok none
  else
    match sides (trimStart cs) with
    | .error rest => .error (.malformed (String.ofList line) (byteLength cs - byteLength rest))
    | .ok (name, rest) =>
      if isOver rest then .ok (some ⟨String.ofList name, ""⟩)
      else do
        let v ← value resolve rest
        return some ⟨String.ofList name, String.ofList v⟩

/-- The assignments of logical lines, after those made so far. -/
def assignmentsFrom (process : Environment) (assigned : List Assignment) :
    List (Except EnvFileError (List Char)) → Except EnvFileError (List Assignment)
  | [] => .ok assigned
  | .error e :: _ => .error e
  | .ok line :: lines => do
    let made ← assignment? (resolve process assigned) line
    assignmentsFrom process (assigned ++ made.toList) lines

/-- The assignments of a file. -/
def assignments (process : Environment) (bytes : ByteArray) :
    Except EnvFileError (List Assignment) :=
  assignmentsFrom process [] (logicalLines (physicalLines bytes))

end SyncQueue.EnvFile
