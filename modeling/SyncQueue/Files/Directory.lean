import SyncQueue.Text.Split

/-!
# Directories

What a path within a directory leads to. A path is followed component by component, so that it may
fail at a component that is missing, no directory, or too long.
-/

namespace SyncQueue.Files

/-- What a path leads to. -/
inductive FileContent where
  | absent
  | unreadable (cause : String)
  | bytes (content : ByteArray)

/-- An entry of a directory tree. -/
inductive Node where
  | directory
  | file (content : ByteArray)

/-- A directory tree: its entries by the components of their paths. The directories above an entry
need not be listed. -/
abbrev Directory := List (List String × Node)

/-- The components of a path. -/
def components (path : String) : List String :=
  (Text.splitAll '/' path.toList).map String.ofList

/-- The longest component of a path in bytes. -/
def maxComponentBytes : Nat := 255

/-- The longest path in bytes. -/
def maxPathBytes : Nat := 4095

/-- Where the components of a path lead. -/
inductive Destination where
  /-- A node. -/
  | node (node : Node)
  /-- Nothing: a directory on the way or the last component is missing. -/
  | missing
  | tooLong
  | notDirectory

/-- Follow the components of a path from the components of a directory. -/
def follow (node? : List String → Option Node) (base : List String) : List String → Destination
  | [] => .node .directory
  | c :: cs =>
    if c = "" || c = "." then follow node? base cs
    else if c = ".." then follow node? base.dropLast cs
    else if maxComponentBytes < c.utf8ByteSize then .tooLong
    else
      match node? (base ++ [c]) with
      | none => .missing
      | some .directory => follow node? (base ++ [c]) cs
      | some (.file content) => if cs.isEmpty then .node (.file content) else .notDirectory

namespace Directory

/-- The entry at the components of a path. -/
def node? (d : Directory) (path : List String) : Option Node :=
  match d.lookup path with
  | some node => some node
  | none =>
    if path.isEmpty || d.any fun entry => path.isPrefixOf entry.1 then some .directory else none

end Directory

/-! ## The working directory -/

/-- A working directory: its absolute path and what is in it. -/
structure WorkingDirectory where
  name : String
  files : Directory

/-- What every system has outside of working directories: a device that holds nothing, and a
directory for everyone. -/
def outside : Directory := [(["dev", "null"], .file .empty), (["tmp"], .directory)]

namespace WorkingDirectory

/-- The components of the path of the directory. -/
def base (w : WorkingDirectory) : List String := (components w.name).filter (!·.isEmpty)

/-- What remains of an absolute path within the directory. -/
def within? (w : WorkingDirectory) (path : List String) : Option (List String) :=
  if w.base.isPrefixOf path then some (path.drop w.base.length) else none

/-- The entry at the components of an absolute path. -/
def node? (w : WorkingDirectory) (path : List String) : Option Node :=
  match w.within? path with
  | some inner => w.files.node? inner
  | none => if path.isPrefixOf w.base then some .directory else outside.node? path

/-- What a path in the directory leads to. A path cannot hold the character zero. -/
def content (w : WorkingDirectory) (path : String) : FileContent :=
  if path.toList.contains '\x00' then .unreadable "file name contained an unexpected NUL byte"
  else if maxPathBytes < (w.name ++ "/" ++ path).utf8ByteSize then
    .unreadable "File name too long (os error 36)"
  else
    match follow w.node? w.base (components path) with
    | .node (.file content) => .bytes content
    | .node .directory => .unreadable "Is a directory (os error 21)"
    | .missing => .absent
    | .tooLong => .unreadable "File name too long (os error 36)"
    | .notDirectory => .unreadable "Not a directory (os error 20)"

/-- Add components to an absolute path one after the other, `..` taking back the one before it. None
when on the way something stands that is no directory, or that has too long a name. -/
def extended? (w : WorkingDirectory) (path : List String) : List String → Option (List String)
  | [] => some path
  | c :: cs =>
    if c = "" || c = "." then extended? w path cs
    else if c = ".." then extended? w path.dropLast cs
    else
      match follow w.node? [] (path ++ [c]) with
      | .node _ | .missing => extended? w (path ++ [c]) cs
      | .tooLong | .notDirectory => none

/-- The components of a path from the root, which begins there or in the working directory. -/
def resolve? (w : WorkingDirectory) (path : List Char) : Option (List String) :=
  w.extended? (if path.head? = some '/' then [] else w.base) (components (String.ofList path))

end WorkingDirectory

end SyncQueue.Files
