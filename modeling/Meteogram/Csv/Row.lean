import Meteogram.Csv.Field

/-!
# Rows of comma-separated text

A field ends at a comma, at a line end or with the text. In a field that begins with a quote, commas
and line ends between quotes belong to the field; elsewhere a quote is a character like any other. A
row ends with the first field that does not end at a comma; where a comma ends the text, the row has
no field after it, and only a line by itself has an empty one.
-/

namespace Meteogram.Csv

/-- What a field ends at. -/
inductive Stop where
  | comma
  | line
  | text
deriving DecidableEq, Repr

/-- A field of a text, and what it ends at. -/
structure Piece where
  field : Field
  stop : Stop
deriving DecidableEq, Repr

/-- Where the reader stands in a field. -/
inductive Place where
  | start
  /-- In a field that does not begin with a quote. -/
  | plain
  /-- Between quotes. -/
  | quoted
  /-- After a quote that closes. -/
  | closed
deriving DecidableEq, Repr

/-- The place after a character that does not end the field. -/
def Place.after : Place → Char → Place
  | .start, c => if c = '"' then .quoted else .plain
  | .plain, _ => .plain
  | .quoted, c => if c = '"' then .closed else .quoted
  | .closed, c => if c = '"' then .quoted else .closed

/-- The fields of a text, given what has been read of the first one in reverse. -/
def piecesFrom (place : Place) (read : List Char) : List Char → List Piece
  | [] => if place = .start then [] else [⟨⟨read.reverse⟩, .text⟩]
  | c :: cs =>
    if c = ',' ∧ place ≠ .quoted then ⟨⟨read.reverse⟩, .comma⟩ :: piecesFrom .start [] cs
    else if c = '\n' ∧ place ≠ .quoted then ⟨⟨read.reverse⟩, .line⟩ :: piecesFrom .start [] cs
    else piecesFrom (place.after c) (c :: read) cs

/-- The fields of a text. -/
def pieces (cs : List Char) : List Piece := piecesFrom .start [] cs

/-- The fields up to the first one that does not end at a comma, or an empty one after the last
comma. -/
def firstRow : List Piece → List Field
  | [] => [⟨[]⟩]
  | p :: ps => if p.stop = .comma then p.field :: firstRow ps else [p.field]

/-- The fields of one line. -/
def lineFields (line : List Char) : List Field := firstRow (pieces line)

/-- The rows of a text, given the fields of the first one that have been read, in reverse. No row
may have more than `width` fields. -/
def rowsFrom? (width : Nat) (read : List Field) : List Piece → Option (List (List Field))
  | [] => if read.isEmpty then some [] else some [read.reverse]
  | p :: ps =>
    let row := p.field :: read
    if p.stop = .comma then
      if row.length = width ∧ !ps.isEmpty then none else rowsFrom? width row ps
    else (rowsFrom? width [] ps).map (row.reverse :: ·)

/-- The rows of a text. -/
def rows? (width : Nat) (cs : List Char) : Option (List (List Field)) :=
  rowsFrom? width [] (pieces cs)

end Meteogram.Csv
