import Mathlib
import Meteogram.Archive.Cell

/-!
# Order of doubles

Doubles stand in a line by sign, exponent and mantissa, the two zeros at one place and what is no
number beside it. Rising order puts the latter last and is transitive; where a cell may come before
another when they rise, the other does not come before it.
-/
open Float.Model (Format UnpackedFloat)
open Float.Model.UnpackedFloat

namespace Meteogram.Double

/-- Where a float stands among the others: by its sign, then by exponent and mantissa. -/
def rank : UnpackedFloat → ℤ ×ₗ ℤ ×ₗ ℤ
  | .infinity .negative => toLex (-2, toLex (0, 0))
  | .finite .negative m e _ => toLex (-1, toLex (-e, -m))
  | .zero _ => toLex (0, toLex (0, 0))
  | .finite .positive m e _ => toLex (1, toLex (e, m))
  | .infinity .positive => toLex (2, toLex (0, 0))
  | .notANumber => toLex (3, toLex (0, 0))

theorem compare_natCast (m n : ℕ) : compare (m : ℤ) n = compare m n := by
  rw [← cmp_eq_compare, ← cmp_eq_compare]
  exact Nat.strictMono_cast.cmp_map_eq m n

theorem compare_neg (a b : ℤ) : compare (-a) (-b) = (compare a b).swap := by
  have hneg : StrictAnti fun x : ℤ => -x := fun _ _ => neg_lt_neg
  rw [← cmp_eq_compare, ← cmp_eq_compare, cmp_swap]
  exact hneg.cmp_map_eq a b

/-- Floats compare as their places in the line. -/
theorem compare_eq {u v : UnpackedFloat} (hu : u ≠ .notANumber) (hv : v ≠ .notANumber) :
    u.compare v = some (compare (rank u) (rank v)) := by
  cases u with
  | notANumber => exact absurd rfl hu
  | infinity s =>
    cases v with
    | notANumber => exact absurd rfl hv
    | infinity s' => cases s <;> cases s' <;> rfl
    | zero s' => cases s <;> rfl
    | finite s' m e hm => cases s <;> cases s' <;> rfl
  | zero s =>
    cases v with
    | notANumber => exact absurd rfl hv
    | infinity s' => cases s' <;> rfl
    | zero s' => rfl
    | finite s' m e hm => cases s' <;> rfl
  | finite s m e hm =>
    cases v with
    | notANumber => exact absurd rfl hv
    | infinity s' => cases s <;> cases s' <;> rfl
    | zero s' => cases s <;> rfl
    | finite s' m' e' hm' =>
      -- Two numbers of one sign differ in the exponent first; below zero the greater one comes first.
      cases s <;> cases s'
      · change _ = some ((compare (-e) (-e')).then (compare (-(m : ℤ)) (-(m' : ℤ))))
        rw [compare_neg, compare_neg, compare_natCast, ← Ordering.swap_then]
        rfl
      · rfl
      · rfl
      · change _ = some ((compare e e').then (compare (m : ℤ) m'))
        rw [compare_natCast]
        rfl

theorem le_iff {u v : UnpackedFloat} :
    u.le v = true ↔ u ≠ .notANumber ∧ v ≠ .notANumber ∧ rank u ≤ rank v := by
  by_cases hu : u = .notANumber
  · subst hu
    simp [UnpackedFloat.le, UnpackedFloat.compare]
  by_cases hv : v = .notANumber
  · subst hv
    cases u <;> simp [UnpackedFloat.le, UnpackedFloat.compare]
  rw [UnpackedFloat.le, compare_eq hu hv, Option.any_some, and_iff_right hu, and_iff_right hv,
    Ordering.isLE_iff_ne_gt]
  exact compare_le_iff_le

theorem lt_iff {u v : UnpackedFloat} :
    u.lt v = true ↔ u ≠ .notANumber ∧ v ≠ .notANumber ∧ rank u < rank v := by
  by_cases hu : u = .notANumber
  · subst hu
    simp [UnpackedFloat.lt, UnpackedFloat.compare]
  by_cases hv : v = .notANumber
  · subst hv
    cases u <;> simp [UnpackedFloat.lt, UnpackedFloat.compare]
  rw [UnpackedFloat.lt, compare_eq hu hv, and_iff_right hu, and_iff_right hv, beq_iff_eq,
    Option.some.injEq, compare_lt_iff_lt]

/-- Rising order: what is no number comes last. -/
def upTo (u v : UnpackedFloat) : Bool := u.le v || v.isNaN

theorem upTo_iff {u v : UnpackedFloat} :
    upTo u v = true ↔ v = .notANumber ∨ u ≠ .notANumber ∧ rank u ≤ rank v := by
  rw [upTo, Bool.or_eq_true, le_iff, isNaN_iff]
  tauto

theorem upTo_trans {u v w : UnpackedFloat} (huv : upTo u v = true) (hvw : upTo v w = true) :
    upTo u w = true := by
  rw [upTo_iff] at huv hvw ⊢
  rcases hvw with hw | ⟨hv, hvw⟩
  · exact .inl hw
  · obtain ⟨hu, huv⟩ := huv.resolve_left hv
    exact .inr ⟨hu, huv.trans hvw⟩

theorem not_lt_of_upTo {u v : UnpackedFloat} (h : upTo u v = true) : v.lt u = false := by
  rw [← Bool.not_eq_true, lt_iff]
  rintro ⟨hv, -, hvu⟩
  exact ((upTo_iff.mp h).resolve_left hv).2.not_gt hvu

end Meteogram.Double

namespace Meteogram

theorem Double.decide_lt (a b : Float) :
    decide (a < b) = a.toModel.unpack.lt b.toModel.unpack := by
  rw [Bool.eq_iff_iff, decide_eq_true_iff]
  change a.lt b = true ↔ _
  rw [Float.lt, decide_eq_true_iff]
  exact Iff.rfl

theorem Double.decide_le (a b : Float) :
    decide (a ≤ b) = a.toModel.unpack.le b.toModel.unpack := by
  rw [Bool.eq_iff_iff, decide_eq_true_iff]
  change a.le b = true ↔ _
  rw [Float.le, decide_eq_true_iff]
  exact Iff.rfl

theorem Double.decide_lt32 (a b : Float32) :
    decide (a < b) = a.toModel.unpack.lt b.toModel.unpack := by
  rw [Bool.eq_iff_iff, decide_eq_true_iff]
  change a.lt b = true ↔ _
  rw [Float32.lt, decide_eq_true_iff]
  exact Iff.rfl

theorem Double.decide_le32 (a b : Float32) :
    decide (a ≤ b) = a.toModel.unpack.le b.toModel.unpack := by
  rw [Bool.eq_iff_iff, decide_eq_true_iff]
  change a.le b = true ↔ _
  rw [Float32.le, decide_eq_true_iff]
  exact Iff.rfl

namespace CellType

variable {type : CellType} {a b c : type.Value}

/-- Doubles and singles are ordered alike. -/
theorem exists_unpacked (h : type.isFloating = true) :
    ∃ unpacked : type.Value → UnpackedFloat,
      (∀ a b, type.before a b = (unpacked a).lt (unpacked b)) ∧
      (∀ a b, type.upTo a b = Double.upTo (unpacked a) (unpacked b)) ∧
      ∀ xs, type.ranked xs = if xs.all fun x => (unpacked x).isNaN then xs
        else xs.filter fun x => !(unpacked x).isNaN := by
  cases type with
  | double =>
    refine ⟨fun x : Float => x.toModel.unpack, Double.decide_lt, ?_, fun _ => rfl⟩
    intro a b
    exact congrArg (· || Float.isNaN b) (Double.decide_le a b)
  | single =>
    refine ⟨fun x : Float32 => x.toModel.unpack, Double.decide_lt32, ?_, fun _ => rfl⟩
    intro a b
    exact congrArg (· || Float32.isNaN b) (Double.decide_le32 a b)
  | _ => cases h

theorem upTo_trans (h : type.isFloating = true) (hab : type.upTo a b = true)
    (hbc : type.upTo b c = true) : type.upTo a c = true := by
  obtain ⟨unpacked, -, hupTo, -⟩ := exists_unpacked h
  rw [hupTo] at hab hbc ⊢
  exact Double.upTo_trans hab hbc

theorem not_before_of_upTo (h : type.isFloating = true) (hab : type.upTo a b = true) :
    type.before b a = false := by
  obtain ⟨unpacked, hbefore, hupTo, -⟩ := exists_unpacked h
  rw [hupTo] at hab
  rw [hbefore]
  exact Double.not_lt_of_upTo hab

/-- Whether of two different values one comes before the other. What is no number cannot be compared
with anything else, nor a zero with the zero of the other sign. -/
def AreComparable (type : CellType) (xs : List type.Value) : Prop :=
  ∀ a ∈ xs, ∀ b ∈ xs, a ≠ b → type.before a b = true ∨ type.before b a = true

/-- Where values can be compared, all of them count. -/
theorem AreComparable.ranked_eq (hfloating : type.isFloating = true) {xs : List type.Value}
    (h : type.AreComparable xs) : type.ranked xs = xs := by
  obtain ⟨unpacked, hbefore, -, hranked⟩ := exists_unpacked hfloating
  rw [hranked]
  split_ifs with hall
  · rfl
  · simp only [List.all_eq_true, not_forall, Bool.not_eq_true] at hall
    obtain ⟨y, hy, hnumber⟩ := hall
    rw [List.filter_eq_self]
    intro x hx
    rw [Bool.not_eq_true', ← Bool.not_eq_true]
    intro hnan
    have hne : x ≠ y := by
      rintro rfl
      rw [hnumber] at hnan
      cases hnan
    rw [isNaN_iff] at hnan
    rcases h x hx y hy hne with hlt | hlt
    · rw [hbefore] at hlt
      exact (Double.lt_iff.mp hlt).1 hnan
    · rw [hbefore] at hlt
      exact (Double.lt_iff.mp hlt).2.1 hnan

end CellType

end Meteogram
