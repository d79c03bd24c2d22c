import Meteogram.Text.Digits
import Meteogram.Text.Blank

/-!
# Reading a text from the left

Each step reads something at the front of a text and gives back what follows it, or fails.
-/

namespace Meteogram.Text

/-- The digits at the front of a text, `most` of them at most when a limit is given. -/
def leadingDigits (most : Option Nat) (cs : List Char) : List Char :=
  match most with
  | some n => (cs.takeWhile isDigit).take n
  | none => cs.takeWhile isDigit

/-- Reads a number of at least `least` and at most `most` digits. -/
def number? (least : Nat) (most : Option Nat) (cs : List Char) : Option (Nat × List Char) :=
  let ds := leadingDigits most cs
  if ds.length < least then none else some (valueOf ds, cs.drop ds.length)

/-- Reads one given character. -/
def char? (expected : Char) : List Char → Option (List Char)
  | [] => none
  | c :: rest => if c = expected then some rest else none

/-- Reads a number of one or two digits that white space may precede. -/
def pair? (cs : List Char) : Option (Nat × List Char) := number? 1 (some 2) (trimStart cs)

/-- Reads a year that white space may precede: with a sign any number of digits, without one four
at most. -/
def year? (cs : List Char) : Option (Int × List Char) :=
  match trimStart cs with
  | '-' :: rest => (number? 1 none rest).map fun (n, more) => (-(n : Int), more)
  | '+' :: rest => (number? 1 none rest).map fun (n, more) => ((n : Int), more)
  | cs => (number? 1 (some 4) cs).map fun (n, more) => ((n : Int), more)

/-- Succeeds at the end of the text only. -/
def finished? {α : Type} : α × List Char → Option α
  | (a, []) => some a
  | (_, _ :: _) => none

end Meteogram.Text
