import Meteogram.Table

/-!
# Tables as HTML

A table is written as rows of cells, the heading being the first cell of its row. Inside a cell five
characters are written as entities, so no text of a cell can be taken for a tag.
-/

namespace Meteogram

namespace Table

/-- A character inside a cell. -/
def escapedChars (c : Char) : List Char :=
  match c with
  | '&' => "&amp;".toList
  | '<' => "&lt;".toList
  | '>' => "&gt;".toList
  | '"' => "&quot;".toList
  | '\'' => "&#39;".toList
  | c => [c]

/-- A cell with its tags. -/
def cellChars (text : String) : List Char :=
  "<td>".toList ++ text.toList.flatMap escapedChars ++ "</td>".toList

/-- A row with its tags: the heading, then the cells. -/
def rowChars (r : TableRow) : List Char :=
  "<tr>".toList ++ (r.heading :: r.cells).flatMap cellChars ++ "</tr>".toList

/-- The table element. -/
def htmlChars (t : Table) : List Char :=
  "<table>".toList ++ t.rows.flatMap rowChars ++ "</table>".toList

def toHtml (t : Table) : String := String.ofList t.htmlChars

end Table

end Meteogram
