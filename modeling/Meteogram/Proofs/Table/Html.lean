import Mathlib.Tactic
import Meteogram.Table.Html

/-!
# Tables read back

A reader of HTML tables splits a text at the literal tags and undoes the entities of what is between
them. It finds a written table again, whatever its texts are: a text is written without `<`, so that
no tag begins in it, and without `&` but where an entity begins, so that undoing entities from left
to right never takes a part of a text for one.
-/
namespace Meteogram

namespace Html

/-- The tags of a table. -/
inductive Tag where
  | table
  | row
  | cell
  | cellEnd
  | rowEnd
  | tableEnd
deriving DecidableEq, Repr

namespace Tag

def chars : Tag → List Char
  | table => "<table>".toList
  | row => "<tr>".toList
  | cell => "<td>".toList
  | cellEnd => "</td>".toList
  | rowEnd => "</tr>".toList
  | tableEnd => "</table>".toList

def all : List Tag := [table, row, cell, cellEnd, rowEnd, tableEnd]

end Tag

/-- A tag, or a character outside of tags. -/
inductive Piece where
  | tag (t : Tag)
  | char (c : Char)
deriving DecidableEq, Repr

/-- The tag of a piece, if it is one. -/
def Piece.tag? : Piece → Option Tag
  | tag t => some t
  | char _ => none

section Scan

variable {α : Type} {literals : List (List Char × α)} {plain : Char → α}

/-- Reads a text from left to right after a number of characters that are left out: a literal for
what it stands for, and where none begins one character. -/
def scan (literals : List (List Char × α)) (plain : Char → α) : ℕ → List Char → List α
  | _, [] => []
  | skip + 1, _ :: cs => scan literals plain skip cs
  | 0, c :: cs =>
    match literals.find? (·.1.isPrefixOf (c :: cs)) with
    | some (literal, a) => a :: scan literals plain (literal.length - 1) cs
    | none => plain c :: scan literals plain 0 cs

theorem scan_skip (cs rest : List Char) :
    scan literals plain cs.length (cs ++ rest) = scan literals plain 0 rest := by
  induction cs with
  | nil => rfl
  | cons c cs ih => exact ih

theorem scan_literal {c : Char} {cs rest : List Char} {a : α}
    (h : literals.find? (·.1.isPrefixOf (c :: (cs ++ rest))) = some (c :: cs, a)) :
    scan literals plain 0 (c :: cs ++ rest) = a :: scan literals plain 0 rest := by
  rw [List.cons_append, scan, h]
  exact congrArg (a :: ·) (scan_skip cs rest)

/-- No literal begins where the character is not the one that all of them begin with. -/
theorem scan_plain {first : Char} (hfirst : ∀ e ∈ literals, e.1.head? = some first) {c : Char}
    (hc : c ≠ first) (rest : List Char) :
    scan literals plain 0 (c :: rest) = plain c :: scan literals plain 0 rest := by
  have hnone : literals.find? (·.1.isPrefixOf (c :: rest)) = none := by
    rw [List.find?_eq_none]
    rintro ⟨literal, a⟩ he
    obtain ⟨cs, rfl⟩ := List.head?_eq_some_iff.mp (hfirst _ he)
    simp [hc.symm]
  rw [scan, hnone]

theorem scan_append_plain {first : Char} (hfirst : ∀ e ∈ literals, e.1.head? = some first)
    {cs : List Char} (hcs : ∀ c ∈ cs, c ≠ first) (rest : List Char) :
    scan literals plain 0 (cs ++ rest) = cs.map plain ++ scan literals plain 0 rest := by
  induction cs with
  | nil => rfl
  | cons c cs ih =>
    rw [List.forall_mem_cons] at hcs
    rw [List.cons_append, scan_plain hfirst hcs.1, ih hcs.2]
    rfl

end Scan

/-! ## Tags -/

/-- Splits a text at its tags. -/
def pieces (cs : List Char) : List Piece :=
  scan (Tag.all.map fun t => (t.chars, .tag t)) .char 0 cs

/-- The tags of a text. -/
def tags (s : String) : List Tag := (pieces s.toList).filterMap Piece.tag?

theorem pieces_tag (t : Tag) (rest : List Char) :
    pieces (t.chars ++ rest) = .tag t :: pieces rest := by
  cases t <;> exact scan_literal rfl

theorem pieces_text {cs : List Char} (h : ∀ c ∈ cs, c ≠ '<') (rest : List Char) :
    pieces (cs ++ rest) = cs.map .char ++ pieces rest :=
  scan_append_plain (by decide) h rest

/-! ## Entities -/

/-- The entities of a text between tags. -/
def entities : List (List Char × Char) :=
  [("&amp;".toList, '&'), ("&lt;".toList, '<'), ("&gt;".toList, '>'), ("&quot;".toList, '"'),
    ("&#39;".toList, '\'')]

/-- Puts characters in the place of their entities, once and from left to right. -/
def unescape (cs : List Char) : List Char := scan entities id 0 cs

theorem unescape_entity {e : List Char × Char} (he : e ∈ entities) (rest : List Char) :
    unescape (e.1 ++ rest) = e.2 :: unescape rest := by
  revert e
  simp only [entities, List.forall_mem_cons]
  exact ⟨scan_literal rfl, scan_literal rfl, scan_literal rfl, scan_literal rfl, scan_literal rfl,
    nofun⟩

/-- A character is written as its entity, or as it is where it can begin neither an entity nor a
tag. -/
theorem escapedChars_cases (c : Char) :
    (Table.escapedChars c, c) ∈ entities ∨ Table.escapedChars c = [c] ∧ c ≠ '&' ∧ c ≠ '<' := by
  unfold Table.escapedChars
  split
  · exact .inl (by decide)
  · exact .inl (by decide)
  · exact .inl (by decide)
  · exact .inl (by decide)
  · exact .inl (by decide)
  · next hamp hlt _ _ _ => exact .inr ⟨rfl, hamp, hlt⟩

theorem unescape_escapedChars (c : Char) (rest : List Char) :
    unescape (Table.escapedChars c ++ rest) = c :: unescape rest := by
  rcases escapedChars_cases c with hmem | ⟨hself, hamp, -⟩
  · exact unescape_entity hmem rest
  · rw [hself]
    exact scan_plain (by decide) hamp rest

/-- Entities undone, a written text is the text. -/
theorem unescape_flatMap (cs : List Char) : unescape (cs.flatMap Table.escapedChars) = cs := by
  induction cs with
  | nil => rfl
  | cons c cs ih => rw [List.flatMap_cons, unescape_escapedChars, ih]

/-- No tag begins in a written text. -/
theorem ne_of_mem_flatMap {cs : List Char} : ∀ d ∈ cs.flatMap Table.escapedChars, d ≠ '<' := by
  intro d hd
  obtain ⟨c, -, hd⟩ := List.mem_flatMap.mp hd
  rcases escapedChars_cases c with hmem | ⟨hself, -, hlt⟩
  · have hentities : ∀ e ∈ entities, '<' ∉ e.1 := by decide
    rintro rfl
    exact hentities _ hmem hd
  · rw [hself, List.mem_singleton] at hd
    exact hd ▸ hlt

/-! ## Reading -/

/-- How far a table has been read. -/
inductive State where
  | start
  | table (rows : List TableRow)
  | row (rows : List TableRow) (cells : List String)
  | cell (rows : List TableRow) (cells : List String) (text : List Char)
  | done (rows : List TableRow)

/-- Reads one more piece. There are characters in cells only, and the first cell of a row is its
heading. -/
def step : State → Piece → Option State
  | .start, .tag .table => some (.table [])
  | .table rows, .tag .row => some (.row rows [])
  | .row rows cells, .tag .cell => some (.cell rows cells [])
  | .cell rows cells text, .char c => some (.cell rows cells (text ++ [c]))
  | .cell rows cells text, .tag .cellEnd =>
    some (.row rows (cells ++ [String.ofList (unescape text)]))
  | .row rows (heading :: cells), .tag .rowEnd => some (.table (rows ++ [⟨heading, cells⟩]))
  | .table rows, .tag .tableEnd => some (.done rows)
  | _, _ => none

/-- Reads pieces one after the other. -/
def run (s : State) (ps : List Piece) : Option State := ps.foldlM step s

/-- The table that a text holds. -/
def read? (s : String) : Option Table :=
  match run .start (pieces s.toList) with
  | some (.done rows) => some ⟨rows⟩
  | _ => none

theorem run_cons {s s' : State} {p : Piece} (h : step s p = some s') (ps : List Piece) :
    run s (p :: ps) = run s' ps := by
  rw [run, List.foldlM_cons, h]
  rfl

theorem run_append {s s' : State} {ps : List Piece} (h : run s ps = some s') (qs : List Piece) :
    run s (ps ++ qs) = run s' qs := by
  rw [run] at h
  rw [run, List.foldlM_append, h]
  rfl

/-! ## Written tables -/

/-- Pieces between two tags. -/
def element (first last : Tag) (inner : List Piece) : List Piece :=
  .tag first :: (inner ++ [.tag last])

def cellPieces (text : String) : List Piece :=
  element .cell .cellEnd ((text.toList.flatMap Table.escapedChars).map .char)

def rowPieces (r : TableRow) : List Piece :=
  element .row .rowEnd ((r.heading :: r.cells).flatMap cellPieces)

def tablePieces (t : Table) : List Piece := element .table .tableEnd (t.rows.flatMap rowPieces)

theorem pieces_element (first last : Tag) {cs : List Char} {inner : List Piece}
    (h : ∀ rest, pieces (cs ++ rest) = inner ++ pieces rest) (rest : List Char) :
    pieces (first.chars ++ cs ++ last.chars ++ rest) =
      element first last inner ++ pieces rest := by
  rw [List.append_assoc, List.append_assoc, pieces_tag, h, pieces_tag, element, List.cons_append,
    List.append_assoc, List.singleton_append]

theorem pieces_flatMap {α : Type} {write : α → List Char} {split : α → List Piece}
    (h : ∀ x rest, pieces (write x ++ rest) = split x ++ pieces rest) (l : List α)
    (rest : List Char) : pieces (l.flatMap write ++ rest) = l.flatMap split ++ pieces rest := by
  induction l with
  | nil => rfl
  | cons x l ih => rw [List.flatMap_cons, List.append_assoc, h, ih, List.flatMap_cons,
      List.append_assoc]

theorem pieces_cellChars (text : String) (rest : List Char) :
    pieces (Table.cellChars text ++ rest) = cellPieces text ++ pieces rest :=
  pieces_element .cell .cellEnd (pieces_text ne_of_mem_flatMap) rest

theorem pieces_rowChars (r : TableRow) (rest : List Char) :
    pieces (Table.rowChars r ++ rest) = rowPieces r ++ pieces rest :=
  pieces_element .row .rowEnd (pieces_flatMap pieces_cellChars _) rest

/-- A written table is split at the tags that were written, and at no others. -/
theorem pieces_toHtml (t : Table) : pieces t.toHtml.toList = tablePieces t := by
  have h : pieces (t.htmlChars ++ []) = tablePieces t ++ pieces [] :=
    pieces_element .table .tableEnd (pieces_flatMap pieces_rowChars _) []
  rw [List.append_nil] at h
  rw [Table.toHtml, String.toList_ofList, h]
  exact List.append_nil _

variable {rows : List TableRow} {cells : List String}

/-- An element is read as its opening tag, what is inside and its closing tag are. -/
theorem run_element {first last : Tag} {inner : List Piece} {s s₁ s₂ s₃ : State}
    (hfirst : step s (.tag first) = some s₁) (hinner : run s₁ inner = some s₂)
    (hlast : step s₂ (.tag last) = some s₃) : run s (element first last inner) = some s₃ := by
  rw [element, run_cons hfirst, run_append hinner, run_cons hlast]
  rfl

/-- Where reading one more of something adds it to what has been read, reading a list adds the list. -/
theorem run_flatMap {α : Type} (state : List α → State) {split : α → List Piece}
    (h : ∀ xs x, run (state xs) (split x) = some (state (xs ++ [x]))) (xs l : List α) :
    run (state xs) (l.flatMap split) = some (state (xs ++ l)) := by
  induction l generalizing xs with
  | nil => rw [List.append_nil]; rfl
  | cons x l ih =>
    rw [List.flatMap_cons, run_append (h xs x), ih, List.append_assoc, List.singleton_append]

theorem run_text (text cs : List Char) :
    run (.cell rows cells text) (cs.map .char) = some (.cell rows cells (text ++ cs)) := by
  rw [List.map_eq_flatMap]
  exact run_flatMap (.cell rows cells) (fun _ _ => rfl) text cs

theorem run_cellPieces (text : String) :
    run (.row rows cells) (cellPieces text) = some (.row rows (cells ++ [text])) := by
  refine run_element rfl (run_text [] _) ?_
  rw [step, List.nil_append, unescape_flatMap, String.ofList_toList]

theorem run_rowPieces (r : TableRow) :
    run (.table rows) (rowPieces r) = some (.table (rows ++ [r])) :=
  run_element rfl (run_flatMap (.row rows) (fun _ text => run_cellPieces text) [] _) rfl

theorem run_tablePieces (t : Table) : run .start (tablePieces t) = some (.done t.rows) :=
  run_element rfl (run_flatMap .table (fun _ r => run_rowPieces r) [] _) rfl

theorem read?_toHtml (t : Table) : read? t.toHtml = some t := by
  rw [read?, pieces_toHtml, run_tablePieces]

/-- Texts that look like tags and entities. -/
example : read? (Table.toHtml ⟨[⟨"</td><td>", ["&lt;", "5 °C"]⟩]⟩) =
    some ⟨[⟨"</td><td>", ["&lt;", "5 °C"]⟩]⟩ := by decide +kernel

/-! ## Tags of written tables -/

/-- The tags of a row with a heading and a number of cells. -/
def rowTags (n : ℕ) : List Tag :=
  .row :: ((List.replicate (n + 1) [Tag.cell, .cellEnd]).flatten ++ [.rowEnd])

/-- The tags of a table whose rows have these numbers of cells. -/
def tableTags (counts : List ℕ) : List Tag := .table :: (counts.flatMap rowTags ++ [.tableEnd])

theorem filterMap_element (first last : Tag) (inner : List Piece) :
    (element first last inner).filterMap Piece.tag? =
      first :: (inner.filterMap Piece.tag? ++ [last]) := by
  have hlast : [Piece.tag last].filterMap Piece.tag? = [last] := rfl
  rw [element, List.filterMap_cons, List.filterMap_append, hlast]
  rfl

theorem filterMap_cellPieces (text : String) :
    (cellPieces text).filterMap Piece.tag? = [.cell, .cellEnd] := by
  have htext : ((text.toList.flatMap Table.escapedChars).map Piece.char).filterMap Piece.tag? =
      [] := by
    rw [List.filterMap_map, List.filterMap_eq_nil_iff]
    exact fun _ _ => rfl
  rw [cellPieces, filterMap_element, htext, List.nil_append]

theorem filterMap_rowPieces (r : TableRow) :
    (rowPieces r).filterMap Piece.tag? = rowTags r.cells.length := by
  have hcells : ((r.heading :: r.cells).flatMap cellPieces).filterMap Piece.tag? =
      (List.replicate (r.cells.length + 1) [Tag.cell, .cellEnd]).flatten := by
    rw [List.filterMap_flatMap, List.flatMap_def]
    simp only [filterMap_cellPieces, List.map_const', List.length_cons]
  rw [rowPieces, filterMap_element, hcells, rowTags]

theorem tags_toHtml (t : Table) : tags t.toHtml = tableTags (t.rows.map (·.cells.length)) := by
  have hrows : (t.rows.flatMap rowPieces).filterMap Piece.tag? =
      (t.rows.map (·.cells.length)).flatMap rowTags := by
    simp only [List.filterMap_flatMap, filterMap_rowPieces, List.flatMap_map]
  rw [tags, pieces_toHtml, tablePieces, filterMap_element, hrows, tableTags]

end Html

/-- The texts of a table cannot break it when it is written. It can be read back, whatever looks like
a tag or an entity in them; its tags follow from the numbers of cells in its rows alone; and no two
tables are written alike. -/
theorem Table.readable_toHtml :
    (∀ t : Table, Html.read? t.toHtml = some t ∧
      Html.tags t.toHtml = Html.tableTags (t.rows.map (·.cells.length))) ∧
    Function.Injective Table.toHtml := by
  refine ⟨fun t => ⟨Html.read?_toHtml t, Html.tags_toHtml t⟩, fun t t' h => ?_⟩
  have hread := Html.read?_toHtml t
  rw [h, Html.read?_toHtml, Option.some.injEq] at hread
  exact hread.symm

end Meteogram
