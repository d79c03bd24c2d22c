import Meteogram.Align.Error
import Meteogram.IndexRange.Json

/-!
# Axes, labels and the policy for shared buckets

An axis is a calendar cut by a period or a range of numbered slots; a label is one bucket of it.
-/

namespace Meteogram

/-- The axis that records are laid on. -/
inductive Axis where
  /-- Calendar buckets; where they begin and end follows from the records and the window. -/
  | calendar (period : Period)
  /-- Numbered slots; where they begin and end follows from the range. -/
  | index (range : IndexRange)
deriving DecidableEq, Repr

instance : Inhabited Axis := ⟨.calendar .raw⟩

/-- One bucket of an axis. -/
inductive Label where
  | instant (t : Instant)
  | index (i : Nat)
deriving DecidableEq, Repr

namespace Label

/-- The timestamp of a calendar bucket or the number of a slot. -/
def text : Label → String
  | instant t => t.iso
  | index i => String.ofList (Text.digits i)

def toJson : Label → Json.Value
  | instant t => .text t.iso
  | index i => .integer i

end Label

/-- What to do with two records in one bucket. -/
inductive DuplicatePolicy where
  /-- The later record takes the place of the earlier one. -/
  | lastWins
  /-- It is an error. -/
  | reject
deriving DecidableEq, Repr, Inhabited

namespace DuplicatePolicy

def name : DuplicatePolicy → String
  | lastWins => "last-wins"
  | reject => "reject"

/-- The policy with a name, in any case and with white space around it. The error holds what was
looked for. -/
def ofName (s : String) : Except String DuplicatePolicy :=
  match Text.folded s with
  | "last-wins" | "last_wins" | "lastwins" => .ok lastWins
  | "reject" => .ok reject
  | other => .error ("unknown duplicate policy '" ++ other ++ "'")

def decode : Json.Decoder DuplicatePolicy :=
  .enumeration [("last-wins", lastWins), ("reject", reject)]

end DuplicatePolicy

namespace Axis

open Json Json.Decoder

/-- An axis is an object with one member, `calendar` or `index`. -/
def decode : Json.Decoder Axis
  | depth, .object members ending => do
    let depth ← Tree.enter depth
    match members with
    | [] =>
      Tree.finish ending
      .error .malformed
    | (key, v) :: more =>
      let isCalendar ← variant names (← Tree.textOf key)
      let axis ← if isCalendar then (Period.decode depth v).map calendar
        else (IndexRange.decode depth v).map index
      if more.isEmpty then Tree.finish ending else .error .malformed
      return axis
  | _, .text s => do
    let _ ← variant names (← Tree.textOf s)
    .error (.invalidType .unitVariant "newtype variant")
  | _, .broken b => .error (.fault b.used)
  | _, _ => .error .malformed
where
  names : List (String × Bool) := [("calendar", true), ("index", false)]

def toJson : Axis → Json.Value
  | calendar p => .object [("calendar", p.toJson)]
  | index r => .object [("index", r.toJson)]

end Axis

end Meteogram
