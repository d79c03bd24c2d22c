import Mathlib.Tactic
import Meteogram.Archive.Order

/-!
# Known orders are orders

What a stretch says of the cells of some parts is true of them: where it knows an order, any cell may
come before any later one in it. The stretch looks at the ends of the parts alone, so that this rests
on the order being transitive.
-/
namespace Meteogram

variable {α : Type} {upTo : α → α → Bool}

/-- Whether values are in an order, each one with the next. -/
def CellOrder.Holds (upTo : α → α → Bool) : CellOrder → List α → Prop
  | .rising, xs => xs.IsChain fun a b => upTo a b = true
  | .falling, xs => xs.IsChain fun a b => upTo b a = true
  | .unknown, _ => True

namespace CellOrder

variable {xs ys : List α} {order : CellOrder}

theorem holds_of_length_le_one (upTo : α → α → Bool) (order : CellOrder) (h : xs.length ≤ 1) :
    order.Holds upTo xs := by
  cases xs with
  | nil => cases order <;> simp [Holds]
  | cons x rest =>
    have hrest : rest = [] := by simpa using h
    cases order <;> simp [Holds, hrest]

theorem Holds.append_rising (hx : rising.Holds upTo xs) (hy : rising.Holds upTo ys)
    (h : ∀ l ∈ xs.getLast?, ∀ r ∈ ys.head?, upTo l r = true) : rising.Holds upTo (xs ++ ys) :=
  List.isChain_append.mpr ⟨hx, hy, h⟩

theorem Holds.append_falling (hx : falling.Holds upTo xs) (hy : falling.Holds upTo ys)
    (h : ∀ l ∈ xs.getLast?, ∀ r ∈ ys.head?, upTo r l = true) : falling.Holds upTo (xs ++ ys) :=
  List.isChain_append.mpr ⟨hx, hy, h⟩

end CellOrder

/-- What a stretch of parts without missing cells says of their values. -/
structure Stretch.Describes (upTo : α → α → Bool) (s : Stretch α) (xs : List α) : Prop where
  rows_eq : s.rows = xs.length
  hasValues_eq : s.hasValues = !xs.isEmpty
  first_eq : s.first = xs.head?
  last_eq : s.last = xs.getLast?
  holds : s.order.Holds upTo xs

namespace Stretch

variable {s t : Stretch α} {xs ys : List α}

theorem describes_ofCells (upTo : α → α → Bool) (xs : List α) :
    (ofCells (xs.map some)).Describes upTo xs where
  rows_eq := List.length_map _
  hasValues_eq := by cases xs <;> rfl
  first_eq := by cases xs <;> rfl
  last_eq := by
    rw [ofCells, List.getLast?_map]
    cases xs.getLast? <;> rfl
  holds := by
    simp only [ofCells, List.length_map]
    split_ifs with h
    · exact CellOrder.holds_of_length_le_one upTo .rising h
    · trivial

theorem Describes.holds_of_isIn (h : s.Describes upTo xs) {order : CellOrder}
    (hs : s.isIn order = true) : order.Holds upTo xs := by
  rw [isIn, Bool.or_eq_true, decide_eq_true_iff, beq_iff_eq, h.rows_eq] at hs
  rcases hs with hone | heq
  · exact CellOrder.holds_of_length_le_one upTo order hone
  · exact heq ▸ h.holds

theorem Describes.isEmpty_iff (h : s.Describes upTo xs) : s.rows = 0 ↔ xs = [] := by
  rw [h.rows_eq, List.length_eq_zero_iff]

/-- The order of two stretches is that of their values one after another. -/
theorem Describes.holds_orderWith (hs : s.Describes upTo xs) (ht : t.Describes upTo ys) :
    (s.orderWith upTo t).Holds upTo (xs ++ ys) := by
  unfold orderWith
  rw [hs.hasValues_eq, ht.hasValues_eq]
  cases xs with
  | nil =>
    cases ys with
    | nil => simp [CellOrder.Holds]
    | cons y ys => simpa [hs.isEmpty_iff.mpr rfl] using ht.holds
  | cons x xs =>
    cases ys with
    | nil => simpa [ht.isEmpty_iff.mpr rfl] using hs.holds
    | cons y ys =>
      obtain ⟨l, hl⟩ := Option.ne_none_iff_exists'.mp
        (mt List.getLast?_eq_none_iff.mp (List.cons_ne_nil x xs))
      simp only [List.isEmpty_cons, Bool.not_false, hs.last_eq, ht.first_eq, hl, List.head?_cons]
      split_ifs with hends hrising hfalling
      · trivial
      · simp only [Bool.and_eq_true] at hrising
        refine (hs.holds_of_isIn hrising.1.1).append_rising (ht.holds_of_isIn hrising.1.2) ?_
        simpa [hl] using hrising.2
      · simp only [Bool.and_eq_true] at hfalling
        refine (hs.holds_of_isIn hfalling.1.1).append_falling (ht.holds_of_isIn hfalling.1.2) ?_
        simpa [hl] using hfalling.2
      · trivial

theorem Describes.append (hs : s.Describes upTo xs) (ht : t.Describes upTo ys) :
    (s.append upTo t).Describes upTo (xs ++ ys) where
  rows_eq := by simp [Stretch.append, hs.rows_eq, ht.rows_eq]
  hasValues_eq := by cases xs <;> cases ys <;> simp [Stretch.append, hs.hasValues_eq, ht.hasValues_eq]
  first_eq := by
    cases xs with
    | nil => simp [Stretch.append, hs.isEmpty_iff, ht.first_eq]
    | cons x xs => simp [Stretch.append, hs.isEmpty_iff, hs.first_eq]
  last_eq := by
    cases ys with
    | nil => simp [Stretch.append, ht.isEmpty_iff, hs.last_eq]
    | cons y ys =>
      rw [List.getLast?_append_of_ne_nil xs (List.cons_ne_nil y ys), ← ht.last_eq]
      simp [Stretch.append, ht.isEmpty_iff]
  holds := hs.holds_orderWith ht

theorem describes_foldl (parts : List (List α)) (hs : s.Describes upTo xs) :
    ((parts.map fun part => ofCells (part.map some)).foldl (append upTo) s).Describes upTo
      (xs ++ parts.flatten) := by
  induction parts generalizing s xs with
  | nil => simpa using hs
  | cons part parts ih =>
    rw [List.map_cons, List.foldl_cons, List.flatten_cons, ← List.append_assoc]
    exact ih (hs.append (describes_ofCells upTo part))

end Stretch

namespace CellOrder

theorem inParts_map {β : Type} (f : α → β) (lengths : List ℕ) (xs : List α) :
    inParts lengths (xs.map f) = (inParts lengths xs).map (List.map f) := by
  induction lengths generalizing xs with
  | nil => cases xs <;> rfl
  | cons n ns ih => simp [inParts, ← List.map_take, ← List.map_drop, ih]

/-- The order that is known of parts is the order of their values. -/
theorem holds_ofParts (upTo : α → α → Bool) (lengths : List ℕ) (xs : List α) :
    (ofParts upTo (inParts lengths (xs.map some))).Holds upTo xs := by
  have hflatten := flatten_inParts lengths xs
  rw [inParts_map, ofParts, List.map_map]
  cases hparts : inParts lengths xs with
  | nil => trivial
  | cons part parts =>
    rw [hparts, List.flatten_cons] at hflatten
    have hdescribes := Stretch.describes_foldl parts (Stretch.describes_ofCells upTo part)
    rw [hflatten] at hdescribes
    exact hdescribes.holds

end CellOrder

end Meteogram
