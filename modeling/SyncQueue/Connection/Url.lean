import SyncQueue.Host.Address
import SyncQueue.Host.Name
import SyncQueue.Text.Percent

/-!
# Addresses as URLs

Whether a text is an absolute URL, and its scheme. `scheme?` follows the URL standard in what it
refuses: a missing scheme, and an authority whose host or endpoint number is malformed.
-/

namespace SyncQueue.Url

open SyncQueue.Text

/-! ## Text -/

/-- A control character of ASCII or a blank. -/
def isEdge (c : Char) : Bool := decide (c.toNat ≤ 0x20)

/-- The text that counts: nothing of the edges, and no tabs or line breaks. -/
def cleaned (cs : List Char) : List Char :=
  (((cs.dropWhile isEdge).reverse.dropWhile isEdge).reverse).filter
    fun c => !(c = '\t' || c = '\n' || c = '\r')

/-- The character may occur in a scheme after its first letter. -/
def isSchemeChar (c : Char) : Bool := c.isAlphanum || c = '+' || c = '-' || c = '.'

/-- The scheme in lower case and what follows its colon. -/
def splitScheme? (cs : List Char) : Option (String × List Char) :=
  match cs with
  | [] => none
  | c :: _ =>
    if c.isAlpha then
      match cs.dropWhile isSchemeChar with
      | ':' :: rest => some (String.ofList ((cs.takeWhile isSchemeChar).map Char.toLower), rest)
      | _ => none
    else none

/-- How the rest of a URL is read. -/
inductive Kind where
  /-- The schemes of the web, whose URLs have a host. -/
  | special
  | file
  | other
  deriving DecidableEq, Repr

/-- The kind of a scheme. -/
def kindOf (scheme : String) : Kind :=
  if ["http", "https", "ws", "wss", "ftp"].contains scheme then .special
  else if scheme = "file" then .file
  else .other

/-! ## Hosts -/

/-- A name, possibly percent-encoded, that is not empty; it must be an address when it ends in a
number. -/
def isName (cs : List Char) : Bool :=
  match Percent.decodeText cs with
  | .error _ => false
  | .ok name =>
    match Host.labels? name with
    | none => false
    | some labels => labels != [[]] && (!Host.isNumeric labels || Host.isAddress labels)

/-- A host that is not empty is well formed. -/
def isHost (kind : Kind) (cs : List Char) : Bool :=
  match cs with
  | '[' :: rest => rest.getLast? = some ']' && Host.isLongAddress rest.dropLast
  | cs =>
    match kind with
    | .other => !cs.any Host.isForbidden
    | .special | .file => isName cs

/-! ## Authorities -/

/-- The character ends an authority. -/
def endsAuthority (kind : Kind) (c : Char) : Bool :=
  c = '/' || c = '?' || c = '#' || (kind != .other && c = '\\')

/-- The host, up to a colon outside of brackets. -/
def hostLength : (inBrackets : Bool) → List Char → Nat
  | _, [] => 0
  | inBrackets, c :: cs =>
    if c = ':' && !inBrackets then 0
    else
      1 + hostLength (if c = '[' then true else if c = ']' then false else inBrackets) cs

/-- The largest number of an endpoint. -/
def maxEndpoint : Nat := 65535

/-- The text after the colon of an endpoint number, which may be missing. A backslash ends it. -/
def isEndpoint (cs : List Char) : Bool :=
  let digits := cs.takeWhile Char.isDigit
  (cs.drop digits.length).head?.all (· = '\\') &&
    decide (Nat.ofDigitChars 10 digits 0 ≤ maxEndpoint)

/-- What stands before the last `@` of an authority is a name or a password: not nothing, and not a
colon alone. -/
def hasCredentials (cs : List Char) : Bool := !(cs.isEmpty || cs = [':'])

/-- An authority, everything between the slashes and the path, is well formed. `atEnd` says that no
path, query or fragment follows it. -/
def isAuthority (kind : Kind) (atEnd : Bool) (cs : List Char) : Bool :=
  let (credentials, rest) := (splitLast? '@' cs).getD ([], cs)
  let host := rest.take (hostLength false rest)
  let endpoint := rest.drop host.length
  if host.isEmpty then
    kind = .other && endpoint.isEmpty && !hasCredentials credentials &&
      (atEnd || cs != ['@'])
  else isHost kind host && isEndpoint endpoint.tail

/-! ## URLs -/

/-- A letter and a colon or a bar, in the place of a host the name of a drive. -/
def isDrive (cs : List Char) : Bool :=
  match cs with
  | [c, mark] => c.isAlpha && (mark = ':' || mark = '|')
  | _ => false

/-- What follows the colon of a scheme is well formed. -/
def isRest (kind : Kind) (rest : List Char) : Bool :=
  let isSlash (c : Char) : Bool := c = '/' || c = '\\'
  let authorityOf (cs : List Char) : List Char := cs.takeWhile fun c => !endsAuthority kind c
  match kind with
  | .special =>
    let rest := rest.dropWhile isSlash
    isAuthority kind (rest.all fun c => !endsAuthority kind c) (authorityOf rest)
  | .file =>
    match rest with
    | a :: b :: rest =>
      let host := authorityOf rest
      !(isSlash a && isSlash b) || host.isEmpty || isDrive host || isHost kind host
    | _ => true
  | .other =>
    match rest with
    | '/' :: '/' :: rest =>
      isAuthority kind (rest.all fun c => !endsAuthority kind c) (authorityOf rest)
    | _ => true

/-- The scheme of a URL in lower case; none when the text is no URL. -/
def scheme? (cs : List Char) : Option String := do
  let (scheme, rest) ← splitScheme? (cleaned cs)
  if isRest (kindOf scheme) rest then some scheme else none

end SyncQueue.Url
