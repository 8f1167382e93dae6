import SyncQueue.Connection.Address

/-!
# File URIs

The name of a database file may be a URI that begins with `file:`. It names a path, and after a
question mark options that change how the file is opened. `DatabaseAddress.resolved` is an address
after its path has been read in this way: what an option asks for must be allowed by the address,
and an address that asks for a layer or says that nobody changes the file keeps its path as it is.
-/

namespace SyncQueue

open Text

/-! ## Syntax -/

namespace FileUri

/-- The marker of a URI. -/
def marker : List Char := "file:".toList

/-- A part of a URI with its percent-encoded bytes decoded; it ends at an encoded zero. -/
def decoded (cs : List Char) : List Char :=
  Utf8.decodeReplacing ((Percent.decode cs).takeWhile (· != 0))

/-- The path after an authority, which must be missing or that of this host. -/
def withoutAuthority (cs : List Char) : Except StoreFault (List Char) :=
  match cs with
  | '/' :: '/' :: rest =>
    let authority := rest.takeWhile (· != '/')
    if authority.isEmpty || authority = "localhost".toList then .ok (rest.drop authority.length)
    else .error (.coded 1 ("invalid uri authority: " ++ String.ofList authority))
  | cs => .ok cs

/-- An option: its name and its value, if it has a name. -/
def option? (part : String) : Option (List Char × List Char) :=
  let (name, value) := (splitFirst? ['='] part.toList).getD (part.toList, [])
  let name := decoded name
  if name.isEmpty then none else some (name, decoded value)

/-- The path and the options of a URI after its marker. -/
def parse (cs : List Char) : Except StoreFault (List Char × List (List Char × List Char)) := do
  let cs ← withoutAuthority cs
  let cs := cs.takeWhile (· != '#')
  let (path, options) := (splitFirst? ['?'] cs).getD (cs, [])
  return (decoded path, ((String.ofList options).splitOn "&").filterMap option?)

/-- A text stands for the truth: a word for it, or a number whose last byte is not zero. -/
def isTrue (cs : List Char) : Bool :=
  if cs.head?.any Char.isDigit then
    let n := Nat.ofDigitChars 10 (cs.takeWhile Char.isDigit) 0
    n < Nat.pow 2 31 && n % 256 != 0
  else ["on", "yes", "true"].contains (String.ofList (cs.map Char.toLower))

end FileUri

/-! ## Options -/

/-- What a mode lets be done with a file. -/
inductive FileMode where
  | reading
  | writing
  /-- Writing, also to a file that is missing. -/
  | creating
  deriving DecidableEq, Repr

namespace FileMode

/-- Modes in ascending order; nothing is asked of a database in memory. -/
def rank : Option FileMode → Nat
  | none => 0
  | some reading => 1
  | some writing => 2
  | some creating => 6

/-- The rank of leave to keep a database in memory, which includes all others. -/
def memoryRank : Nat := 128

/-- The mode of a name; a database in memory has none. -/
def ofName? : String → Option (Option FileMode)
  | "ro" => some (some reading)
  | "rw" => some (some writing)
  | "rwc" => some (some creating)
  | "memory" => some none
  | _ => none

end FileMode

namespace DatabaseAddress

/-- The mode of an address; none for a database in memory that may be written. -/
def mode (a : DatabaseAddress) : FileMode :=
  if a.readOnly then .reading else if a.createsMissing then .creating else .writing

/-- The address with another mode. -/
def withMode (a : DatabaseAddress) (mode : Option FileMode) : DatabaseAddress :=
  { a with
    readOnly := mode = some .reading
    createsMissing := mode = some .creating
    inMemory := mode = none }

/-- Apply an option of a URI. -/
def setOption (a : DatabaseAddress) (name value : List Char) : Except StoreFault DatabaseAddress :=
  let text := String.ofList value
  match String.ofList name with
  | "vfs" => .ok { a with layer := some text }
  | "cache" =>
    if text = "shared" || text = "private" then .ok a
    else .error (.coded 1 ("no such cache mode: " ++ text))
  | "mode" =>
    match FileMode.ofName? text with
    | none => .error (.coded 1 ("no such access mode: " ++ text))
    | some mode =>
      let limit := FileMode.rank (some a.mode) + if a.inMemory then FileMode.memoryRank else 0
      if limit < FileMode.rank mode then .error (.coded 3 ("access mode not allowed: " ++ text))
      else .ok (a.withMode mode)
  | _ => .ok a

/-- Apply options of a URI in order. -/
def setOptions (a : DatabaseAddress) :
    List (List Char × List Char) → Except StoreFault DatabaseAddress
  | [] => .ok a
  | (name, value) :: rest =>
    match a.setOption name value with
    | .ok a => setOptions a rest
    | .error e => .error e

/-- The text before the first zero. -/
def beforeZero (cs : List Char) : List Char := cs.takeWhile (· != '\x00')

/-- The name of a layer as it is looked up: blanks are written as plus signs. -/
def layerName (layer : String) : String :=
  String.ofList ((beforeZero layer.toList).map fun c => if c = ' ' then '+' else c)

/-- The address after its path has been read as the name of a file. -/
def resolved (a : DatabaseAddress) : Except StoreFault DatabaseAddress :=
  if a.layer.isSome || a.immutable then
    .ok { a with path := beforeZero a.path, layer := a.layer.map layerName }
  else if a.path.contains '\x00' then
    .error (.io "filename passed to SQLite must not contain nul bytes")
  else
    match after? FileUri.marker a.path with
    | none => .ok a
    | some rest => do
      let (path, options) ← FileUri.parse rest
      let a ← { a with path }.setOptions options
      return { a with immutable := (options.lookup "immutable".toList).any FileUri.isTrue }

end DatabaseAddress

end SyncQueue
