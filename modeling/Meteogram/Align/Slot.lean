import Meteogram.Align.Scale

/-!
# Slots: sparse records on a dense axis

Sorted records are laid on a scale one after another. A cursor stands on the next bucket of the
axis: the buckets that it passes on the way to the bucket of a record stay empty, then the record
fills its own, and after the last record the cursor goes on to the end of the axis. A record in the
bucket of the record before it takes its place or is refused; one in an earlier bucket is out of
order.
-/

namespace Meteogram

/-- One bucket of an axis and the record that counts in it, if any record falls in it. -/
structure Slot (κ : Type) where
  bucket : κ
  record : Option Record

/-- How far records have been laid on a scale. -/
structure Walk (κ : Type) where
  /-- The slots so far, the latest first. -/
  slots : List (Slot κ)
  /-- The bucket that comes next, `none` where the scale does not step. -/
  cursor : Option κ
  /-- The bucket of the latest record. -/
  previous : Option κ

namespace Walk

variable {κ : Type}

/-- Nothing is laid yet. -/
def fromStart (start : κ) : Walk κ := ⟨[], some start, none⟩

/-- A record takes the place of the latest one. -/
def overwrite (w : Walk κ) (r : Record) : Walk κ :=
  match w.slots with
  | [] => w
  | slot :: earlier => { w with slots := ⟨slot.bucket, some r⟩ :: earlier }

end Walk

namespace Scale

variable {κ : Type} (s : Scale κ)

/-- The buckets of records, from a position on. -/
def bucketsFrom (position : Nat) : List Record → Except AlignError (List κ)
  | [] => .ok []
  | r :: rs => do
    let k ← s.bucketOf position r.time
    return k :: (← bucketsFrom (position + 1) rs)

/-- The buckets from a cursor on while they satisfy a condition, in so many steps at most. -/
def stepsWhile (inside : κ → Bool) : Nat → Option κ → List κ
  | 0, _ => []
  | _, none => []
  | more + 1, some k => if inside k then k :: stepsWhile inside more (s.step k) else []

/-- A number of steps that is enough to get a cursor past a bucket. -/
def reachFrom (cursor : Option κ) (k : κ) : Nat :=
  match cursor with
  | some a => s.reach a k
  | none => 0

/-- The empty slots from a cursor on that come before a bucket. -/
def gapBefore (cursor : Option κ) (k : κ) : List (Slot κ) :=
  (s.stepsWhile (s.before · k) (s.reachFrom cursor k) cursor).map (⟨·, none⟩)

/-- The empty slots from a cursor on up to the last bucket of the axis. -/
def gapUpTo (cursor : Option κ) (last : κ) : List (Slot κ) :=
  (s.stepsWhile (fun k => !s.before last k) (s.reachFrom cursor last) cursor).map (⟨·, none⟩)

/-- Fills the bucket of a record after the empty ones before it. -/
def fill (w : Walk κ) (k : κ) (r : Record) : Walk κ where
  slots := ⟨k, some r⟩ :: ((s.gapBefore w.cursor k).reverse ++ w.slots)
  cursor := s.step k
  previous := some k

/-- Lays the record at a position. A record in the bucket of the one before it is wrong under the
policy `reject` only. -/
def lay (policy : DuplicatePolicy) (position : Nat) (w : Walk κ) (k : κ) (r : Record) :
    Except AlignError (Walk κ) :=
  match w.previous with
  | none => .ok (s.fill w k r)
  | some p =>
    if s.before k p then .error (.unsorted position)
    else if s.before p k then .ok (s.fill w k r)
    else
      match policy with
      | .reject => .error (.duplicateBucket position (s.label k).text)
      | .lastWins => .ok (w.overwrite r)

/-- Lays records with their buckets, the first one being at a position. -/
def layFrom (policy : DuplicatePolicy) (position : Nat) (w : Walk κ) :
    List (κ × Record) → Except AlignError (Walk κ)
  | [] => .ok w
  | (k, r) :: rest => do layFrom policy (position + 1) (← s.lay policy position w k r) rest

/-- All slots of an axis: those that have been laid and the empty ones up to its last bucket. -/
def finish (w : Walk κ) (last : κ) : List (Slot κ) := w.slots.reverse ++ s.gapUpTo w.cursor last

end Scale

end Meteogram
