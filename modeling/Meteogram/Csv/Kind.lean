import Meteogram.Archive.Cell
import Meteogram.Csv.Field
import Meteogram.Decimal.Nearest
import Meteogram.Text.DecimalDigit

/-!
# Kinds of columns

The kind of a column follows from what its first fields look like: truth values, integers and
decimal numbers make columns of their kind, integers and decimals together make decimals, and
anything else makes text. Every field is then read as one of that kind. Looks and reading differ:
digits of any script look like a number, only those of ASCII are read as one; blanks before a
number are no part of its look, but do not hinder reading it.
-/

namespace Meteogram.Csv

/-- What the fields of a column hold. -/
inductive Kind where
  | bool
  | integer
  | decimal
  | text
deriving DecidableEq, Repr

/-! ## Looks -/

/-- A letter in lower case; the long s counts as an s. -/
def small (c : Char) : Char := if c = 'ſ' then 's' else c.toLower

/-- `true` or `false` in any case. -/
def looksBool (cs : List Char) : Bool :=
  cs.map small == "true".toList || cs.map small == "false".toList

/-- Digits, at least one. -/
def looksNatural (cs : List Char) : Bool := !cs.isEmpty && cs.all Text.isDecimalDigit

/-- Digits after a minus sign or without one. -/
def looksInteger : List Char → Bool
  | '-' :: cs => looksNatural cs
  | cs => looksNatural cs

/-- What follows a sign, if there is one. -/
def afterSign : List Char → List Char
  | '-' :: cs => cs
  | '+' :: cs => cs
  | cs => cs

/-- A letter for an exponent, and an integer with a sign or without one. -/
def looksExponent : List Char → Bool
  | c :: cs => (c == 'e' || c == 'E') && looksNatural (afterSign cs)
  | [] => false

/-- Digits with a point, an exponent or both. An exponent does not follow a point directly. -/
def looksUnsigned (cs : List Char) : Bool :=
  let whole := cs.takeWhile Text.isDecimalDigit
  match cs.dropWhile Text.isDecimalDigit with
  | '.' :: rest =>
    let tail := rest.dropWhile Text.isDecimalDigit
    if (rest.takeWhile Text.isDecimalDigit).isEmpty then !whole.isEmpty && tail.isEmpty
    else tail.isEmpty || looksExponent tail
  | tail => !whole.isEmpty && looksExponent tail

/-- A decimal number, an infinity or what is no number, with a sign or without one. -/
def looksDecimal (cs : List Char) : Bool :=
  let body := afterSign cs
  body == "inf".toList || body == "NaN".toList || looksUnsigned body

namespace Kind

/-- The kind of column that a field asks for; a blank one asks for none. -/
def of? (f : Field) : Option Kind :=
  if f.isBlank then none
  else if looksBool f.inner then some bool
  else if looksDecimal f.inner then some decimal
  else if looksInteger f.inner then some integer
  else some text

/-- The kind of a column whose fields ask for both kinds. -/
def join (a b : Kind) : Kind :=
  match a, b with
  | integer, decimal => decimal
  | decimal, integer => decimal
  | a, b => if a = b then a else text

/-- The kind of a column with these fields; if none asks for a kind it is text. -/
def ofFields (fields : List Field) : Kind :=
  match fields.filterMap of? with
  | [] => text
  | k :: ks => ks.foldl join k

/-- The type of the cells of a column. -/
def cellType : Kind → CellType
  | bool => .bool
  | integer => .int64
  | decimal => .double
  | text => .text

end Kind

/-! ## Reading -/

/-- Reads `true` or `false` in any case. -/
def bool? (cs : List Char) : Option Bool :=
  let small := cs.map Char.toLower
  if small = "true".toList then some true
  else if small = "false".toList then some false
  else none

/-- Reads an integer of 64 bits. -/
def integer? (cs : List Char) : Option Int64 :=
  (Text.integer? cs).bind fun n =>
    if Int64.minValue.toInt ≤ n ∧ n ≤ Int64.maxValue.toInt then some (Int64.ofInt n) else none

/-- Reads an exponent with its letter; without any text it is zero. -/
def exponent? : List Char → Option Int
  | c :: cs => if c = 'e' ∨ c = 'E' then Text.integer? cs else none
  | [] => some 0

/-- Reads digits, at least one, around a point or without one, and an exponent. -/
def unsigned? (cs : List Char) : Option Float :=
  let whole := cs.takeWhile Text.isDigit
  let rest := cs.dropWhile Text.isDigit
  let (fraction, tail) := match rest with
    | '.' :: rest => (rest.takeWhile Text.isDigit, rest.dropWhile Text.isDigit)
    | rest => ([], rest)
  if whole.isEmpty && fraction.isEmpty then none
  else (exponent? tail).map fun e =>
    Decimal.nearest (Text.valueOf (whole ++ fraction)) (e - fraction.length)

/-- Reads a decimal number, an infinity or what is no number, with a sign or without one. -/
def decimal? (cs : List Char) : Option Float :=
  let body := afterSign cs
  let small := body.map Char.toLower
  let value :=
    if small = "inf".toList ∨ small = "infinity".toList then some Decimal.infinity
    else if small = "nan".toList then some (0 / 0)
    else unsigned? body
  value.map fun x => if cs.head? = some '-' then -x else x

/-- A cell that is missing where there is nothing to read. -/
def cellOf? {α : Type} (read? : List Char → Option α) (cs : List Char) : Option (Option α) :=
  if cs.isEmpty then some none else (read? cs).map some

/-- What follows the blanks at the front. -/
def afterBlanks (cs : List Char) : List Char := cs.dropWhile fun c => c == ' ' || c == '\t'

/-- Reads the cell of a field in a column of a kind; `none` if the field is not of that kind. -/
def Kind.cell? : (kind : Kind) → Field → Option (Option kind.cellType.Value)
  | .bool, f => cellOf? bool? f.inner
  | .integer, f => cellOf? integer? (afterBlanks f.inner)
  | .decimal, f => cellOf? decimal? (afterBlanks f.inner)
  | .text, f => if f.isBlank then some none else f.text?.map fun cs => some (String.ofList cs)

end Meteogram.Csv
