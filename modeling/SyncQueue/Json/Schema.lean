import SyncQueue.Json.Reader
import SyncQueue.Number.Width
import SyncQueue.Time.Zoned
import SyncQueue.Uuid

/-!
# Documents with a schema

A record with known fields may be written with field names, in any order and with further fields, or
as a list of the values in the order of the schema. `Tree.record?` takes both apart.
`Schema.canonical?` checks the fields and gives the document in its canonical form.
-/

namespace SyncQueue.Json

open Time (Zoned)

/-! ## Records -/

/-- The parts of a record. -/
inductive Parts where
  /-- The value of each known field, if it is there. -/
  | named (values : List (Option Tree))
  /-- Values in the order of the fields. -/
  | positional (values : List Tree)

/-- The value of a field; none when it is there more than once. -/
def Tree.onlyField? (fields : List (Option String × Tree)) (name : String) : Option (Option Tree) :=
  match fields.filter fun f => f.1 = some name with
  | [] => some none
  | [f] => some (some f.2)
  | _ => none

/-- Take a record with the given fields apart. Unknown fields are skipped without a look at their
values, but every name must denote a text. -/
def Tree.record? (names : List String) : Tree → Option Parts
  | .object fields =>
    if fields.all fun f => f.1.isSome then
      (names.mapM (onlyField? fields)).map .named
    else none
  | .array items => if items.length ≤ names.length then some (.positional items) else none
  | _ => none

/-- The value of each of `count` fields, if it is there. -/
def Parts.optional (count : Nat) : Parts → List (Option Tree)
  | .named values => values
  | .positional values => values.map some ++ List.replicate (count - values.length) none

/-! ## Values -/

/-- A whole number between two bounds. -/
def Tree.integerWithin? (low high : Int) : Tree → Option Int
  | .number n =>
    match n.value? with
    | some (.integer i) => if low ≤ i && i ≤ high then some i else none
    | _ => none
  | _ => none

/-- A text. -/
def Tree.text? : Tree → Option String
  | .string s => s
  | _ => none

/-- The name of one of several alternatives: a text, or a record whose only field has the name and
is null. -/
def Tree.name? (depth : Nat) : Tree → Option String
  | .string s => s
  | .object [(name, .null)] => if depth = 0 then none else name
  | _ => none

/-- The kind of a field. -/
inductive FieldKind where
  | identifier
  | time
  /-- A whole number of 32 bits. -/
  | integer
  | text
  | flag
  /-- One of some names. -/
  | oneOf (names : List String)
  | anything
  deriving DecidableEq, Repr

/-- The canonical value of a field, nested at most `depth` deep. -/
def FieldKind.canonical? (depth : Nat) : FieldKind → Tree → Option Json
  | .identifier, t => (t.text?.bind fun s => Uuid.read? s.toList).map fun u => .string u.text
  | .time, t => (t.text?.bind fun s => Zoned.read? s.toList).map fun z => .string z.text
  | .integer, t => (t.integerWithin? (Number.minSigned 32) (Number.maxSigned 32)).map .integer
  | .text, t => t.text?.map .string
  | .flag, .bool b => some (.bool b)
  | .flag, _ => none
  | .oneOf names, t => ((t.name? depth).filter names.contains).map .string
  | .anything, t => t.json? read? depth

/-- A field of a document. -/
structure Field where
  name : String
  kind : FieldKind
  /-- The field may be missing or null. -/
  isOptional : Bool
  deriving DecidableEq, Repr

/-- A field that must be there. -/
def Field.required (name : String) (kind : FieldKind) : Field := ⟨name, kind, false⟩

/-- A field that may be missing. -/
def Field.optional (name : String) (kind : FieldKind) : Field := ⟨name, kind, true⟩

/-- The canonical value of a field that is there. -/
def Field.present? (f : Field) (depth : Nat) (t : Tree) : Option Json :=
  match f.isOptional, t with
  | true, .null => some .null
  | _, t => f.kind.canonical? depth t

/-- The canonical value of a field that may be missing. -/
def Field.named? (f : Field) (depth : Nat) : Option Tree → Option Json
  | some t => f.present? depth t
  | none => if f.isOptional then some .null else none

/-- The fields of a document in their order. -/
abbrev Schema := List Field

/-- The canonical form of a document: all fields in order. A list must give every field. -/
def Schema.canonical? (schema : Schema) (t : Tree) : Option Json := do
  let names := schema.map (·.name)
  let depth := maxDepth - 1
  let values ← match ← t.record? names with
    | .named values => (schema.zip values).mapM fun (f, v) => f.named? depth v
    | .positional values =>
      if values.length = schema.length then
        (schema.zip values).mapM fun (f, v) => f.present? depth v
      else none
  return .object (names.zip values)

/-- The canonical form of a document in a text. -/
def Schema.read? (schema : Schema) (cs : List Char) : Option Json :=
  (Tree.read? cs).bind schema.canonical?

end SyncQueue.Json
