import Meteogram.Archive.Frame
import Meteogram.Csv.Kind
import Meteogram.Csv.Part
import Meteogram.Csv.Row

/-!
# Frames from comma-separated text

The first line names the columns, and the lines after it say of which kind they are. A row with
fewer fields has missing cells at its end, one with more cannot be read, and neither can a field
that is not of the kind of its column. A blank line is a row without cells. The rows are read part by
part, and the frame remembers the parts.
-/

namespace Meteogram.Csv

/-- The lines from which the kinds of the columns follow. -/
def sampleSize : Nat := 100

/-- A text without the byte order mark at its front. -/
def withoutMark : List Char → List Char
  | '\uFEFF' :: cs => cs
  | cs => cs

/-- The names that the fields of the first line give, a repeated one with a number after it. A quote
between quotes stays written twice. -/
def columnNames (before : List (List Char)) : List Field → List String
  | [] => []
  | f :: rest =>
    let name := match before.count f.inner with
      | 0 => f.inner
      | n + 1 => f.inner ++ "_duplicated_".toList ++ Text.digits n
    String.ofList name :: columnNames (f.inner :: before) rest

/-- The kind of a column by the lines below the first; of several positions with its name the last
one counts. -/
def kindOf (names : List String) (samples : List (List Field)) (name : String) : Kind :=
  let position := names.length - 1 - names.reverse.idxOf name
  Kind.ofFields (samples.filterMap (·[position]?))

/-- Whether a text begins as compressed data does. -/
def looksCompressed (text : String) : Bool :=
  "x\x01".toList.isPrefixOf text.toList && 4 ≤ text.utf8ByteSize

/-- The column at a position; a field that is not there is missing. -/
def column? (name : String) (kind : Kind) (position : Nat) (rows : List (List Field)) :
    Option Column := do
  let cell (row : List Field) : Option (Option kind.cellType.Value) :=
    match row[position]? with
    | some f => kind.cell? f.withoutReturn
    | none => some none
  return ⟨name, kind.cellType, ← rows.mapM cell⟩

/-- The frame that a text holds, given the bytes that fit in its first part; compressed data hold none.
Line ends before the first line are skipped; but a text of one column holds, as a row each, the lines
after the first line end. -/
def frame? (size : Nat) (text : String) : Option Frame := do
  guard (!looksCompressed text)
  let cs := withoutMark text.toList
  let content := Lines.ofText (cs.dropWhile fun c => c == '\n' || c == '\r')
  let names := columnNames [] (lineFields (withoutReturn (← content.first?)))
  let samples := content.below.toList.take sampleSize
  let sampleFields := samples.map fun line => lineFields (withoutReturn line)
  let columns := names.eraseDups
  let body := if columns.length = 1 then Lines.ofText cs else content
  let parts ← (body.below.parts size).mapM (rows? columns.length)
  let columns ← columns.zipIdx.mapM fun (name, position) =>
    column? name (kindOf names sampleFields name) position parts.flatten
  let frame ← Frame.ofColumns? columns
  return { frame with parts := parts.map (·.length) }

end Meteogram.Csv
