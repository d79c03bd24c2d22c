import Meteogram.Csv.Line

/-!
# Parts of comma-separated text

Lines are read in parts: as many whole lines as fit in the size of a part, and what follows the last
line end as a part of its own. The size is up to the machine that reads them. The parts make up the
text whatever it is: `Lines.flatten_parts`.
-/

namespace Meteogram.Csv

/-- The bytes of a line with its end. -/
def lineSize (line : List Char) : Nat := line.foldl (fun size c => size + c.utf8Size) 1

namespace Lines

/-- Puts lines together, given the size of a part, and of the part that is open the bytes and, in
reverse, the lines. Where a line alone is too long, parts are twice as large from there on, as often
as it takes. -/
def groupsFrom (size used : Nat) (group : List (List Char)) :
    List (List Char) → List (List (List Char))
  | [] => [group.reverse]
  | line :: lines =>
    let needed := lineSize line
    if used + needed ≤ size then groupsFrom size (used + needed) (line :: group) lines
    else group.reverse :: groupsFrom (max size needed.nextPowerOfTwo) needed [line] lines

theorem flatten_groupsFrom (size used : Nat) (group lines : List (List Char)) :
    (groupsFrom size used group lines).flatten = group.reverse ++ lines := by
  induction lines generalizing size used group with
  | nil => simp [groupsFrom]
  | cons line lines ih =>
    rw [groupsFrom]
    split <;> simp [ih]

/-- The text of the parts, given the bytes that fit in the first one; none of them is empty. -/
def parts (size : Nat) (l : Lines) : List (List Char) :=
  (((groupsFrom size 0 [] l.ended).map withEnds) ++ [l.tail]).filter (!·.isEmpty)

theorem flatten_map_withEnds (groups : List (List (List Char))) :
    (groups.map withEnds).flatten = withEnds groups.flatten := by
  induction groups with
  | nil => rfl
  | cons group groups ih => simp [ih, withEnds]

theorem flatten_parts (size : Nat) (l : Lines) : (l.parts size).flatten = l.text := by
  rw [parts, List.flatten_filter_not_isEmpty, List.flatten_append, flatten_map_withEnds,
    flatten_groupsFrom]
  simp [text]

end Lines

end Meteogram.Csv
