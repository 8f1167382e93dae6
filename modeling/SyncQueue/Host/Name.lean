import SyncQueue.Host.Composition
import SyncQueue.Host.Direction
import SyncQueue.Host.Joining
import SyncQueue.Host.Punycode
import SyncQueue.Host.Replacement

/-!
# Host names

Names of labels between dots, in which characters beyond ASCII may stand as they are or in encoded
labels. `labels?` refuses a name with characters that names may not hold, with labels that are not
well formed, or with labels that mix the directions of text.
-/

namespace SyncQueue.Host

open SyncQueue.Text

/-- The character may not occur in a host. -/
def isForbidden (c : Char) : Bool :=
  "\x00\t\n\r #/:<>?@[\\]^|".toList.contains c

/-- The character may not occur in a host name. -/
def isForbiddenInName (c : Char) : Bool :=
  isForbidden c || c = '%' || decide (c.toNat < 0x20) || c = '\x7f'

/-- The beginning of an encoded label. -/
def encodedMark : List Char := "xn--".toList

/-- The character may stand in the text of an encoded label. -/
def isEncodable (c : Char) : Bool := if isAscii c then !isForbiddenInName c else isPlain c

/-- The text of a label. An encoded one is ASCII, and its text is not, and it is composed. -/
def labelText? (label : List Char) : Option (List Char) :=
  match after? encodedMark label with
  | none => some label
  | some encoded => do
    guard (label.all isAscii)
    let text ← Punycode.decode? encoded
    guard (text.any (!isAscii ·) && text.all isEncodable && (after? encodedMark text).isNone)
    guard (isComposed text)
    return text

/-- The text of a label does not begin with a mark, and its joiners stand where they may. -/
def isLabelText (text : List Char) : Bool := !text.head?.any isMark && joinersFit [] text

/-- The labels of a name. -/
def labels? (name : List Char) : Option (List (List Char)) := do
  let folded ← name.mapM folded?
  let folded := folded.flatten
  guard (!folded.any isForbiddenInName)
  let labels := splitAll '.' folded
  let texts ← labels.mapM labelText?
  guard (texts.all isLabelText)
  guard (!texts.any (·.any isRightToLeft) || texts.all hasOneDirection)
  return labels

end SyncQueue.Host
