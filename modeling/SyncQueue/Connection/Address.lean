import SyncQueue.Store.Error
import SyncQueue.Text.Percent
import SyncQueue.Text.Quoted

/-!
# Addresses of databases

What the URL of a SQLite database asks for: a file or a database in memory, and how to open it.
`read` refuses unknown parameters and values.
-/

namespace SyncQueue

open Text

/-- A database and how it is opened. -/
structure DatabaseAddress where
  /-- The path of the file; empty for a temporary database. -/
  path : List Char
  inMemory : Bool
  readOnly : Bool
  /-- A missing file is created, unless the database is only read. -/
  createsMissing : Bool
  /-- Nobody changes the file. -/
  immutable : Bool
  /-- The file system layer asked for. -/
  layer : Option String
  deriving DecidableEq, Repr

namespace DatabaseAddress

/-- A file that must exist and is read and written. -/
def ofPath (path : List Char) : DatabaseAddress := ⟨path, false, false, false, false, none⟩

/-- A database that ends with its last connection. -/
def memory : DatabaseAddress := { ofPath [] with inMemory := true }

/-- A value that a parameter does not have. -/
def unknownValue (name : String) (value : List Char) : StoreFault :=
  .configuration ("unknown value " ++ quoted value ++ " for \x60" ++ name ++ "\x60")

/-- Apply a parameter. -/
def set (a : DatabaseAddress) (name value : List Char) : Except StoreFault DatabaseAddress :=
  match String.ofList name, String.ofList value with
  | "mode", "ro" => .ok { a with readOnly := true }
  | "mode", "rw" => .ok a
  | "mode", "rwc" => .ok { a with createsMissing := true }
  | "mode", "memory" => .ok { a with inMemory := true }
  | "mode", _ => .error (unknownValue "mode" value)
  | "cache", "private" | "cache", "shared" => .ok a
  | "cache", _ => .error (unknownValue "cache" value)
  | "immutable", "true" | "immutable", "1" => .ok { a with immutable := true }
  | "immutable", "false" | "immutable", "0" => .ok { a with immutable := false }
  | "immutable", _ => .error (unknownValue "immutable" value)
  | "vfs", layer => .ok { a with layer := some layer }
  | name, _ =>
    .error <| .configuration <|
      "unknown query parameter \x60" ++ name ++ "\x60 while parsing connection URL"

/-- Apply parameters in order. -/
def setAll (a : DatabaseAddress) :
    List (List Char × List Char) → Except StoreFault DatabaseAddress
  | [] => .ok a
  | (name, value) :: rest =>
    match a.set name value with
    | .ok a => setAll a rest
    | .error e => .error e

/-- Drop a beginning as often as it occurs. The fuel is the length of the text. -/
def dropRepeated (beginning : List Char) : (fuel : Nat) → List Char → List Char
  | 0, cs => cs
  | fuel + 1, cs =>
    match after? beginning cs with
    | some rest => dropRepeated beginning fuel rest
    | none => cs

/-- What stands after the scheme of a URL. -/
def afterScheme (cs : List Char) : List Char :=
  let cs := dropRepeated "sqlite://".toList cs.length cs
  dropRepeated "sqlite:".toList cs.length cs

/-- Read the URL of a database: a path, and parameters after the first question mark. -/
def read (url : List Char) : Except StoreFault DatabaseAddress :=
  let cs := afterScheme url
  let (database, query) := (splitFirst? ['?'] cs).getD (cs, [])
  let address : Except StoreFault DatabaseAddress :=
    if database = ":memory:".toList then .ok memory
    else
      match Percent.decodeText database with
      | .ok path => .ok (ofPath path)
      | .error text => .error (.configuration text)
  match address with
  | .ok address => address.setAll (Percent.pairs query)
  | .error e => .error e

end DatabaseAddress

end SyncQueue
