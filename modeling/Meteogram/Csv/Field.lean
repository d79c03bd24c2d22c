/-!
# Fields of comma-separated text

A field is kept as it is written. One that begins with a quote should end with one; its text stands
in between, with every quote written twice.
-/

namespace Meteogram.Csv

/-- A field as it is written. -/
structure Field where
  written : List Char
deriving DecidableEq, Repr

namespace Field

/-- Nothing at all, not even quotes. -/
def isBlank (f : Field) : Bool := f.written.isEmpty

/-- A text without its last byte. What that leaves of a longer character is no character, and U+FFFD
stands in its place. -/
def withoutLastByte (cs : List Char) : List Char :=
  match cs.getLast? with
  | some c => if c.utf8Size = 1 then cs.dropLast else cs.dropLast ++ ['\uFFFD']
  | none => []

/-- What stands between the first and the last byte of a field that begins with a quote; a lone quote
and any other field stand for themselves. -/
def inner (f : Field) : List Char :=
  match f.written with
  | '"' :: c :: cs => withoutLastByte (c :: cs)
  | cs => cs

/-- Two quotes stand for one, and one for none. -/
def unescaped : List Char → List Char
  | '"' :: '"' :: cs => '"' :: unescaped cs
  | c :: cs => if c = '"' then unescaped cs else c :: unescaped cs
  | [] => []

/-- The text of a field; one that begins with a quote has none unless it ends with another. -/
def text? (f : Field) : Option (List Char) :=
  match f.written with
  | '"' :: cs => if cs.getLast? = some '"' then some (unescaped cs.dropLast) else none
  | cs => some cs

/-- A field without the carriage return at its end. -/
def withoutReturn (f : Field) : Field :=
  if f.written.getLast? = some '\r' then ⟨f.written.dropLast⟩ else f

end Field

end Meteogram.Csv
