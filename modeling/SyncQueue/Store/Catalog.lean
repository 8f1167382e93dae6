import SyncQueue.Json.Value
import SyncQueue.Store.Error

/-!
# Catalog

The tables of a database with their columns, indexes and foreign keys, and the statements that
change them. Names are compared without regard to case. `SchemaStatement.apply` refuses what would
create something twice or drop what is not there.
-/

namespace SyncQueue

/-- A column of a table. -/
structure Column where
  name : String
  type : String
  notNull : Bool
  /-- The text of the default value. -/
  default : Option String
  /-- The place in the primary key, counted from one; zero outside of it. -/
  primaryKey : Nat
  deriving DecidableEq, Repr

/-- Why an index exists. -/
inductive IndexOrigin where
  | primaryKey
  | uniqueColumn
  | created
  deriving DecidableEq, Repr

/-- A column of an index. -/
structure IndexColumn where
  /-- None for a constant in place of a column. -/
  name : Option String
  descending : Bool
  deriving DecidableEq, Repr

/-- An index of a table. -/
structure Index where
  name : String
  origin : IndexOrigin
  columns : List IndexColumn
  deriving DecidableEq, Repr

/-- A reference of a column to a column of another table; rows go with the row they refer to. -/
structure ForeignKey where
  column : String
  table : String
  target : String
  deriving DecidableEq, Repr

/-- A table. -/
structure TableSchema where
  name : String
  columns : List Column
  indexes : List Index
  foreignKeys : List ForeignKey
  deriving DecidableEq, Repr

/-- The tables of a database in the order of their creation. -/
abbrev Catalog := List TableSchema

/-- What an index is to be built on. -/
structure IndexTerm where
  name : String
  descending : Bool
  /-- A name that is no column stands for a constant. -/
  mayBeConstant : Bool
  deriving DecidableEq, Repr

/-- A statement that changes a catalog. With `lenient`, a table or an index of the name that is
already there is left as it is, and one that is not there need not be dropped. -/
inductive SchemaStatement where
  | createTable (table : TableSchema) (lenient : Bool)
  | createIndex (name table : String) (terms : List IndexTerm) (lenient : Bool)
  | dropIndex (name : String) (lenient : Bool)
  | dropTable (name : String) (lenient : Bool)
  deriving DecidableEq, Repr

namespace Catalog

/-- Two names mean the same table, index or column. -/
def sameName (a b : String) : Bool := a.toLower = b.toLower

/-- The table of a name. -/
def table? (c : Catalog) (name : String) : Option TableSchema := c.find? (sameName name ·.name)

/-- The index of a name. -/
def index? (c : Catalog) (name : String) : Option Index :=
  (c.flatMap (·.indexes)).find? (sameName name ·.name)

end Catalog

open Catalog (sameName)

namespace TableSchema

/-- The table without an index. -/
def withoutIndex (t : TableSchema) (name : String) : TableSchema :=
  { t with indexes := t.indexes.filter (!sameName name ·.name) }

/-- The column of a name. -/
def column? (t : TableSchema) (name : String) : Option Column :=
  t.columns.find? (sameName name ·.name)

/-- A column of an index of the table; none when there is no such column. -/
def indexColumn? (t : TableSchema) (term : IndexTerm) : Option IndexColumn :=
  match t.column? term.name with
  | some column => some ⟨some column.name, term.descending⟩
  | none => if term.mayBeConstant then some ⟨none, term.descending⟩ else none

/-- The table with an index. -/
def withIndex (t : TableSchema) (name : String) (columns : List IndexColumn) : TableSchema :=
  { t with indexes := t.indexes ++ [⟨name, .created, columns⟩] }

/-- The first name of a column that the table has twice. -/
def repeatedColumn? (t : TableSchema) : Option String :=
  go [] (t.columns.map (·.name))
where
  /-- The first name that is among those before it. -/
  go (before : List String) : List String → Option String
    | [] => none
    | name :: names =>
      if before.any (sameName name) then some name else go (name :: before) names

end TableSchema

namespace SchemaStatement

/-- The error for a statement that does not fit the catalog. -/
def refused (text : String) : StoreError := .execution (.coded 1 text)

/-- The catalog after a table has been created. -/
def createdTable (c : Catalog) (table : TableSchema) (lenient : Bool) : Except StoreError Catalog :=
  if (c.table? table.name).isSome then
    if lenient then .ok c else .error (refused ("table " ++ table.name ++ " already exists"))
  else if (c.index? table.name).isSome then
    .error (refused ("there is already an index named " ++ table.name))
  else
    match table.repeatedColumn? with
    | some name => .error (refused ("duplicate column name: " ++ name))
    | none => .ok (c ++ [table])

/-- The catalog after an index has been created. -/
def createdIndex (c : Catalog) (name table : String) (terms : List IndexTerm) (lenient : Bool) :
    Except StoreError Catalog :=
  match c.table? table with
  | none => .error (refused ("no such table: main." ++ table))
  | some t =>
    if (c.table? name).isSome then
      .error (refused ("there is already a table named " ++ name))
    else if (c.index? name).isSome then
      if lenient then .ok c else .error (refused ("index " ++ name ++ " already exists"))
    else
      match terms.find? fun term => (t.indexColumn? term).isNone with
      | some term => .error (refused ("no such column: " ++ term.name))
      | none =>
        let columns := terms.filterMap t.indexColumn?
        .ok (c.map fun u => if u.name = t.name then u.withIndex name columns else u)

/-- The catalog after a statement. -/
def apply (c : Catalog) : SchemaStatement → Except StoreError Catalog
  | createTable table lenient => createdTable c table lenient
  | createIndex name table terms lenient => createdIndex c name table terms lenient
  | dropIndex name lenient =>
    match c.index? name with
    | none => if lenient then .ok c else .error (refused ("no such index: " ++ name))
    | some index =>
      if index.origin = .created then .ok (c.map (·.withoutIndex name))
      else
        .error <| refused
          "index associated with UNIQUE or PRIMARY KEY constraint cannot be dropped"
  | dropTable name lenient =>
    if (c.table? name).isSome then .ok (c.filter (!sameName name ·.name))
    else if lenient then .ok c
    else .error (refused ("no such table: " ++ name))

/-- The catalog after statements up to the first that is refused, and its error. -/
def applyAll (c : Catalog) : List SchemaStatement → Catalog × Option StoreError
  | [] => (c, none)
  | s :: ss =>
    match s.apply c with
    | .ok c => applyAll c ss
    | .error e => (c, some e)

end SchemaStatement

/-! ## Documents -/

/-- Zero or one. -/
def Json.bit (b : Bool) : Json := .nat (if b then 1 else 0)

/-- The document of a column. -/
def Column.toJson (c : Column) : Json := .object [
  ("name", .string c.name),
  ("type", .string c.type),
  ("notnull", .bit c.notNull),
  ("dflt_value", .ofOption .string c.default),
  ("pk", .nat c.primaryKey)]

/-- The short name of an origin. -/
def IndexOrigin.text : IndexOrigin → String
  | primaryKey => "pk"
  | uniqueColumn => "u"
  | created => "c"

/-- The document of an index. -/
def Index.toJson (i : Index) : Json := .object [
  ("name", .string i.name),
  ("unique", .bit (i.origin != .created)),
  ("origin", .string i.origin.text),
  ("columns", .array <| i.columns.map fun c =>
    .object [("name", .ofOption .string c.name), ("desc", .bit c.descending)])]

/-- The document of a foreign key. -/
def ForeignKey.toJson (k : ForeignKey) : Json := .object [
  ("table", .string k.table),
  ("from", .string k.column),
  ("to", .string k.target),
  ("on_delete", .string "CASCADE"),
  ("on_update", .string "NO ACTION")]

/-- The document of a table, its indexes by name. -/
def TableSchema.toJson (t : TableSchema) : Json := .object [
  ("columns", .array (t.columns.map Column.toJson)),
  ("indexes", .array <|
    (t.indexes.mergeSort fun a b => decide (a.name ≤ b.name)).map Index.toJson),
  ("foreign_keys", .array (t.foreignKeys.map ForeignKey.toJson))]

/-- The document of a catalog. -/
def Catalog.toJson (c : Catalog) : Json := .object (c.map fun t => (t.name, t.toJson))

end SyncQueue
