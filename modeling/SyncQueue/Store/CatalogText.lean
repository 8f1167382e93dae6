import SyncQueue.Store.Catalog
import SyncQueue.Text.Blank
import SyncQueue.Text.Decimal

/-!
# Statements on a catalog as text

The statements `CREATE TABLE`, `CREATE INDEX`, `DROP TABLE` and `DROP INDEX`. A text is a list of
tokens; key words may be written in either case, and names in quotes. `SchemaStatement.read?` reads
one statement.
-/

namespace SyncQueue.SchemaStatement

open SyncQueue.Text

/-! ## Tokens -/

/-- A piece of a text: a word, something in quotes, or a single character, with the blanks before
it. -/
structure Token where
  blanks : List Char
  text : List Char
  deriving DecidableEq, Repr

/-- A character of words. -/
def isWordChar (c : Char) : Bool := c.isAlphanum || c = '_' || c = '$' || 127 < c.toNat

/-- The quote that closes what a quote opens. -/
def closing? : Char → Option Char
  | '"' => some '"'
  | '\'' => some '\''
  | '\x60' => some '\x60'
  | '[' => some ']'
  | _ => none

/-- The text up to its first closing quote, the quote included. -/
def quotedPart (close : Char) (cs : List Char) : List Char :=
  cs.takeWhile (· != close) ++ [close]

/-- The first piece of a text that does not begin with a blank. -/
def firstPiece : List Char → List Char
  | [] => []
  | c :: cs =>
    match closing? c with
    | some close => c :: quotedPart close cs
    | none => if isWordChar c then c :: cs.takeWhile isWordChar else [c]

/-- The tokens of a text, at most `fuel` of them. -/
def tokens : (fuel : Nat) → List Char → List Token
  | 0, _ => []
  | fuel + 1, cs =>
    let blanks := cs.takeWhile isBlank
    let rest := cs.drop blanks.length
    if rest.isEmpty then []
    else
      let piece := firstPiece rest
      ⟨blanks, piece⟩ :: tokens fuel (rest.drop piece.length)

namespace Token

/-- The token is a key word or a mark. -/
def is (t : Token) (word : String) : Bool := (String.ofList t.text).toUpper = word

/-- The name that a token stands for. -/
def name? (t : Token) : Option String :=
  match t.text with
  | [] => none
  | c :: cs =>
    if (closing? c).isSome then some (String.ofList cs.dropLast)
    else if isWordChar c && !c.isDigit then some (String.ofList t.text)
    else none

/-- The tokens as they are written, without the blanks before the first. -/
def written : List Token → List Char
  | [] => []
  | t :: ts => t.text ++ ts.flatMap fun u => u.blanks ++ u.text

end Token

/-! ## Columns -/

/-- The words that end the type of a column. -/
def isConstraint (t : Token) : Bool :=
  ["NOT", "NULL", "PRIMARY", "UNIQUE", "DEFAULT"].any t.is

/-- The types with a spelling of their own. -/
def standardTypes : List String := ["ANY", "BLOB", "INT", "INTEGER", "REAL", "TEXT"]

/-- The tokens up to a closing bracket, the bracket included, and those after it. -/
def bracketed (ts : List Token) : List Token × List Token :=
  let inside := ts.takeWhile (!·.is ")")
  (inside ++ (ts.drop inside.length).take 1, ts.drop (inside.length + 1))

/-- The type at the start of some tokens: names, and what is in brackets after them. -/
def splitType (ts : List Token) : List Token × List Token :=
  let names := ts.takeWhile fun t => t.name?.isSome && !isConstraint t
  match ts.drop names.length with
  | t :: rest =>
    if t.is "(" && !names.isEmpty then
      let (inside, rest) := bracketed rest
      (names ++ t :: inside, rest)
    else (names, t :: rest)
  | [] => (names, [])

/-- The text of a type. -/
def typeText (ts : List Token) : String :=
  let text := match ts with
    | [t] => t.name?.getD ""
    | _ => String.ofList (Token.written ts)
  if standardTypes.contains text.toUpper then text.toUpper else text

/-- A value after `DEFAULT`, and the tokens after it. -/
def splitDefault : List Token → Option (String × List Token)
  | sign :: t :: rest =>
    if sign.is "-" || sign.is "+" then some (String.ofList (Token.written [sign, t]), rest)
    else some (String.ofList sign.text, t :: rest)
  | _ => none

/-- A column and the constraints that come with an index: whether it is the primary key, and whether
its values are unique. -/
structure ColumnDraft where
  column : Column
  implied : List IndexOrigin

/-- Read the constraints of a column, at most `fuel` of them. -/
def constraints : (fuel : Nat) → ColumnDraft → List Token → ColumnDraft × List Token
  | 0, d, ts => (d, ts)
  | fuel + 1, d, ts =>
    match ts with
    | t :: u :: rest =>
      if t.is "NOT" && u.is "NULL" then
        constraints fuel { d with column.notNull := true } rest
      else if t.is "NULL" then constraints fuel d (u :: rest)
      else if t.is "UNIQUE" then
        constraints fuel { d with implied := d.implied ++ [.uniqueColumn] } (u :: rest)
      else if t.is "PRIMARY" && u.is "KEY" then
        let implied := if d.column.type = "INTEGER" then [] else [IndexOrigin.primaryKey]
        constraints fuel
          { d with column.primaryKey := 1, implied := d.implied ++ implied } rest
      else if t.is "DEFAULT" then
        match splitDefault (u :: rest) with
        | some (text, rest) => constraints fuel { d with column.default := some text } rest
        | none => (d, ts)
      else (d, ts)
    | _ => (d, ts)

/-- Read the columns of a table up to the closing bracket, at most `fuel` of them. -/
def columns? : (fuel : Nat) → List Token → Option (List ColumnDraft)
  | 0, _ => none
  | fuel + 1, ts =>
    match ts with
    | [] => none
    | t :: ts => do
      let name ← t.name?
      let (type, rest) := splitType ts
      let draft : ColumnDraft := ⟨⟨name, typeText type, false, none, 0⟩, []⟩
      let (draft, rest) := constraints rest.length draft rest
      match rest with
      | u :: rest =>
        if u.is "," then (columns? fuel rest).map (draft :: ·)
        else if u.is ")" && rest.isEmpty then some [draft]
        else none
      | [] => none

/-- The name of the n-th index that comes with a constraint of a table. -/
def impliedName (table : String) (n : Nat) : String :=
  "sqlite_autoindex_" ++ table ++ "_" ++ String.ofList (natDigits n)

/-- A table of some columns. -/
def tableOf (name : String) (drafts : List ColumnDraft) : TableSchema :=
  let implied := drafts.flatMap fun d => d.implied.map fun origin => (origin, d.column.name)
  let indexes := (implied.zipIdx 1).map fun ((origin, column), n) =>
    (⟨impliedName name n, origin, [⟨some column, false⟩]⟩ : Index)
  ⟨name, drafts.map (·.column), indexes, []⟩

/-! ## Statements -/

/-- The terms of an index up to the closing bracket, at most `fuel` of them. -/
def terms? : (fuel : Nat) → List Token → Option (List IndexTerm)
  | 0, _ => none
  | fuel + 1, ts =>
    match ts with
    | t :: u :: rest => do
      let name ← t.name?
      let hasOrder := u.is "ASC" || u.is "DESC"
      let term : IndexTerm := ⟨name, u.is "DESC", t.text.head? = some '"'⟩
      match if hasOrder then rest else u :: rest with
      | v :: rest =>
        if v.is "," then (terms? fuel rest).map (term :: ·)
        else if v.is ")" && rest.isEmpty then some [term]
        else none
      | [] => none
    | _ => none

/-- Take the words `IF EXISTS` or `IF NOT EXISTS` off some tokens, if they are there. -/
def lenient (words : List String) (ts : List Token) : Bool × List Token :=
  let found := ts.take words.length
  if found.length = words.length && (found.zip words).all fun (t, w) => t.is w then
    (true, ts.drop words.length)
  else (false, ts)

/-- A statement after `CREATE TABLE`. -/
def readTable? (ts : List Token) : Option SchemaStatement :=
  match lenient ["IF", "NOT", "EXISTS"] ts with
  | (lenient, name :: bracket :: rest) => do
    guard (bracket.is "(")
    return .createTable (tableOf (← name.name?) (← columns? rest.length rest)) lenient
  | _ => none

/-- A statement after `CREATE INDEX`. -/
def readIndex? (ts : List Token) : Option SchemaStatement :=
  match lenient ["IF", "NOT", "EXISTS"] ts with
  | (lenient, name :: on :: table :: bracket :: rest) => do
    guard (on.is "ON" && bracket.is "(")
    return .createIndex (← name.name?) (← table.name?) (← terms? rest.length rest) lenient
  | _ => none

/-- A statement after `DROP TABLE` or `DROP INDEX`. -/
def readDrop? (make : String → Bool → SchemaStatement) (ts : List Token) :
    Option SchemaStatement :=
  match lenient ["IF", "EXISTS"] ts with
  | (lenient, [name]) => name.name?.map (make · lenient)
  | _ => none

/-- Read a statement. -/
def read? (cs : List Char) : Option SchemaStatement :=
  let ts := tokens cs.length cs
  match if ts.getLast?.any (·.is ";") then ts.dropLast else ts with
  | verb :: object :: rest =>
    if verb.is "CREATE" && object.is "TABLE" then readTable? rest
    else if verb.is "CREATE" && object.is "INDEX" then readIndex? rest
    else if verb.is "DROP" && object.is "TABLE" then readDrop? .dropTable rest
    else if verb.is "DROP" && object.is "INDEX" then readDrop? .dropIndex rest
    else none
  | _ => none

end SyncQueue.SchemaStatement
