/-!
# Lines of comma-separated text

A line ends at the first line end outside quotes. Every quote opens or closes, wherever it stands,
so after one that opens and is not followed by another the text has no more line ends. Cutting a
text into lines loses nothing: `Lines.text_ofText`.
-/

namespace Meteogram.Csv

/-- The lines of a text. -/
structure Lines where
  /-- The lines that end, without their line ends. -/
  ended : List (List Char)
  /-- What follows the last line end. -/
  tail : List Char
deriving DecidableEq, Repr

namespace Lines

/-- The lines of a text, given whether it begins inside quotes and what has been read of its first
line in reverse. -/
def readFrom (inside : Bool) (read : List Char) : List Char → Lines
  | [] => ⟨[], read.reverse⟩
  | c :: cs =>
    if c = '\n' ∧ !inside then
      let more := readFrom false [] cs
      ⟨read.reverse :: more.ended, more.tail⟩
    else readFrom (if c = '"' then !inside else inside) (c :: read) cs

def ofText (cs : List Char) : Lines := readFrom false [] cs

/-- The text of lines with their ends. -/
def withEnds (lines : List (List Char)) : List Char := lines.flatMap (· ++ ['\n'])

/-- The text that the lines make up. -/
def text (l : Lines) : List Char := withEnds l.ended ++ l.tail

theorem text_readFrom (inside : Bool) (read cs : List Char) :
    (readFrom inside read cs).text = read.reverse ++ cs := by
  induction cs generalizing inside read with
  | nil => simp [readFrom, text, withEnds]
  | cons c cs ih =>
    by_cases ends : c = '\n' ∧ (!inside) = true
    · have more := ih false []
      rw [text, withEnds] at more
      rw [readFrom, if_pos ends, text, withEnds, List.flatMap_cons, List.append_assoc, more,
        ends.1]
      simp
    · rw [readFrom, if_neg ends, ih]
      simp

theorem text_ofText (cs : List Char) : (ofText cs).text = cs := text_readFrom false [] cs

/-- The lines after the first one that ends. -/
def below (l : Lines) : Lines :=
  match l.ended with
  | [] => ⟨[], []⟩
  | _ :: more => ⟨more, l.tail⟩

/-- All lines; nothing after the last line end is no line. -/
def toList (l : Lines) : List (List Char) := if l.tail.isEmpty then l.ended else l.ended ++ [l.tail]

/-- The first line, if there is one. A text that is one line without an end is taken with one. -/
def first? (l : Lines) : Option (List Char) :=
  match l.ended with
  | line :: _ => some line
  | [] =>
    if l.tail.getLast? = some '\n' then some l.tail
    else if l.tail.isEmpty then none
    else (ofText (l.tail ++ ['\n'])).toList.head?

end Lines

/-- A line without the carriage return at its end, unless there is nothing else on it. -/
def withoutReturn (line : List Char) : List Char :=
  if 1 < line.length ∧ line.getLast? = some '\r' then line.dropLast else line

end Meteogram.Csv
