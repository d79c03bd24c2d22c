import Meteogram.Json.Token

/-!
# JSON texts as trees, read as far as they go

`Document.ofChars` arranges the tokens of a text in a tree. A text that goes wrong is kept up to that
point: a value that cannot be read is `Tree.broken`, and an array or object that is not closed says
why. A reader that walks the tree from left to right therefore meets what is wrong in the order of
the text, also when bad data stands before the place where the text breaks off.
-/

namespace Meteogram.Json

inductive Tree where
  | null
  | bool (b : Bool)
  | number (l : Literal)
  | text (s : Quoted)
  /-- The items in order; `ending` says what is wrong after the last one, if anything is. -/
  | array (items : List Tree) (ending : Option Break)
  | object (members : List (Quoted × Tree)) (ending : Option Break)
  | broken (b : Break)
deriving Repr

/-- A text: its value, and whether something else comes after it. -/
structure Document where
  root : Tree
  trailing : Bool
deriving Repr

namespace Tree

/-- An array or object under way, with what is complete in reverse. -/
inductive Frame where
  | array (items : List Tree)
  | object (members : List (Quoted × Tree))
  /-- An object whose next member has this key. -/
  | member (members : List (Quoted × Tree)) (key : Quoted)
deriving Repr

/-- What may come next. -/
inductive Expected where
  | value
  /-- An item or the end of the array, right after its opening. -/
  | itemOrEnd
  /-- A key or the end of the object, right after its opening. -/
  | keyOrEnd
  | key
  | colon
  /-- A comma or the end of the innermost array or object. -/
  | next
deriving DecidableEq, Repr

/-- Adds a complete value to the innermost array or object. -/
def Frame.add (v : Tree) : Frame → Frame
  | .array items => .array (v :: items)
  | .object members => .object members
  | .member members key => .object ((key, v) :: members)

/-- The array or object of a frame, broken off or not. -/
def Frame.close (ending : Option Break) : Frame → Tree
  | .array items => .array items.reverse ending
  | .object members => .object members.reverse ending
  | .member members key =>
    .object ((key, .broken (ending.getD (.plain .malformed))) :: members).reverse ending

/-- Closes all that is open, from the inside, around an innermost value. -/
def unwind (b : Break) (v : Tree) : List Frame → Tree
  | [] => v
  | f :: fs => unwind b ((f.add v).close (some b)) fs

/-- The tree of a text that breaks off where no value has begun. A comma promises an item, so an
array that breaks off after one has a broken last item. -/
def cut (b : Break) (expected : Expected) : List Frame → Tree
  | [] => .broken b
  | .array items :: fs =>
    if expected = .value then unwind b (.array ((Tree.broken b :: items).reverse) (some b)) fs
    else unwind b (.array items.reverse (some b)) fs
  | f :: fs => unwind b (f.close (some b)) fs

/-- Goes on after a complete value: into the innermost frame, or to the end of the text. -/
def complete (v : Tree) (rest : List Token) (frames : List Frame)
    (go : List Frame → Expected → Document) : Document :=
  match frames with
  | [] => ⟨v, !rest.isEmpty⟩
  | f :: fs => go (f.add v :: fs) .next

/-- Arranges tokens, the innermost open frame first. -/
def build : List Token → List Frame → Expected → Document
  | [], frames, expected => ⟨cut (.plain .eof) expected frames, false⟩
  | t :: ts, frames, expected =>
    let value (v : Tree) : Document := complete v ts frames (build ts)
    let stop (b : Break) : Document := ⟨cut b expected frames, false⟩
    let wrong : Break := .plain .malformed
    match expected, t, frames with
    | .itemOrEnd, .closeArray, f :: fs => complete (f.close none) ts fs (build ts)
    | .keyOrEnd, .closeObject, f :: fs => complete (f.close none) ts fs (build ts)
    | .next, .closeArray, .array items :: fs =>
      complete (.array items.reverse none) ts fs (build ts)
    | .next, .closeObject, .object members :: fs =>
      complete (.object members.reverse none) ts fs (build ts)
    | .next, .comma, .array items :: fs => build ts (.array items :: fs) .value
    | .next, .comma, .object members :: fs => build ts (.object members :: fs) .key
    | .next, _, _ => stop wrong
    | .colon, .colon, _ => build ts frames .value
    | .colon, _, _ => stop wrong
    | .key, .text s, .object members :: fs => build ts (.member members s :: fs) .colon
    | .keyOrEnd, .text s, .object members :: fs => build ts (.member members s :: fs) .colon
    | .key, .brokenText b, _ => stop b
    | .keyOrEnd, .brokenText b, _ => stop b
    | .key, _, _ => stop wrong
    | .keyOrEnd, _, _ => stop wrong
    | _, .null, _ => value .null
    | _, .bool b, _ => value (.bool b)
    | _, .number l, _ => value (.number l)
    | _, .text s, _ => value (.text s)
    | _, .openArray, _ => build ts (.array [] :: frames) .itemOrEnd
    | _, .openObject, _ => build ts (.object [] :: frames) .keyOrEnd
    | _, .brokenText b, _ => stop b
    | _, .broken b, _ => stop b
    | _, _, _ => stop wrong

end Tree

namespace Document

/-- The document that a text holds. -/
def ofChars (cs : List Char) : Document := Tree.build (Token.ofChars cs) [] .value

def ofString (s : String) : Document := ofChars s.toList

end Document

end Meteogram.Json
