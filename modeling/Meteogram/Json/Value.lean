import Meteogram.Json.Error

/-!
# JSON values and their compact text

A value is what the library writes. `Value.chars` is its text without white space: members in the
order given, the shortest digits for a double, `null` for a double that is not finite, and escapes
for the quote, the reverse solidus and control characters only.
-/

namespace Meteogram.Json

inductive Value where
  | null
  | bool (b : Bool)
  | integer (n : Int)
  | float (x : Float)
  | text (s : String)
  | array (items : List Value)
  | object (members : List (String × Value))
deriving Repr, Inhabited

/-- A character inside a written string. -/
def escapedChars (c : Char) : List Char :=
  match c with
  | '"' => ['\\', '"']
  | '\\' => ['\\', '\\']
  | '\n' => ['\\', 'n']
  | '\r' => ['\\', 'r']
  | '\t' => ['\\', 't']
  | '\x08' => ['\\', 'b']
  | '\x0c' => ['\\', 'f']
  | c =>
    if c.toNat < 0x20 then
      ['\\', 'u', '0', '0', Nat.digitChar (c.toNat / 16), Nat.digitChar (c.toNat % 16)]
    else [c]

/-- A string in quotes. -/
def textChars (s : String) : List Char := '"' :: s.toList.flatMap escapedChars ++ ['"']

namespace Value

/-- A number, or `null` for nothing. -/
def ofFloat? : Option Float → Value
  | some x => .float x
  | none => .null

/-- A text, or `null` for nothing. -/
def ofText? : Option String → Value
  | some s => .text s
  | none => .null

mutual

/-- The compact text of a value. -/
def chars : Value → List Char
  | .null => "null".toList
  | .bool b => if b then "true".toList else "false".toList
  | .integer n => Text.signed n
  | .float x => if x.isFinite then floatChars x else "null".toList
  | .text s => textChars s
  | .array items => '[' :: itemsChars items
  | .object members => '\x7b' :: membersChars members

/-- The items of an array and its closing bracket. -/
def itemsChars : List Value → List Char
  | [] => [']']
  | [v] => v.chars ++ [']']
  | v :: vs => v.chars ++ ',' :: itemsChars vs

/-- The members of an object and its closing brace. -/
def membersChars : List (String × Value) → List Char
  | [] => ['\x7d']
  | [(k, v)] => textChars k ++ ':' :: v.chars ++ ['\x7d']
  | (k, v) :: ms => textChars k ++ ':' :: v.chars ++ ',' :: membersChars ms

end

/-- The compact text of a value. -/
def render (v : Value) : String := String.ofList v.chars

end Value

end Meteogram.Json
