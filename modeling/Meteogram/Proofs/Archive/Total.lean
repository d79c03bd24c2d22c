import Mathlib.Tactic
import Meteogram.Archive.Summary
import Meteogram.Proofs.Double.Units

/-!
# Exact totals

Integers and finite doubles are multiples of the smallest number of their type, so that both have exact
sums. A word goes around at its end, and a total is the sum up to a multiple of its width; narrow
integers have totals of 64 bits. A total of doubles is the sum if none of its additions rounds. An exact
total does not depend on the order of its numbers or on how they are put into groups.
-/
open Float.Model (Format)

namespace Meteogram

section sumOf

variable {α : Type} [Add α] {isFinite : α → Bool} {units : α → ℤ} {sum x : α} {xs : List α}

/-- Whether numbers can be added to a sum one after another, and no addition rounds. -/
def ContinuesExactly (isFinite : α → Bool) (units : α → ℤ) (sum : α) : List α → Prop
  | [] => isFinite sum = true
  | x :: xs => isFinite sum = true ∧ isFinite x = true ∧ units (sum + x) = units sum + units x ∧
      ContinuesExactly isFinite units (sum + x) xs

/-- Whether numbers can be summed up from left to right, and no addition rounds. -/
def AddExactly (isFinite : α → Bool) (units : α → ℤ) : List α → Prop
  | [] => True
  | x :: xs => ContinuesExactly isFinite units x xs

instance decidableContinuesExactly (isFinite : α → Bool) (units : α → ℤ) (sum : α) :
    (xs : List α) → Decidable (ContinuesExactly isFinite units sum xs)
  | [] => inferInstanceAs (Decidable (isFinite sum = true))
  | x :: xs =>
    have := decidableContinuesExactly isFinite units (sum + x) xs
    inferInstanceAs (Decidable (isFinite sum = true ∧ isFinite x = true ∧
      units (sum + x) = units sum + units x ∧ ContinuesExactly isFinite units (sum + x) xs))

instance decidableAddExactly (isFinite : α → Bool) (units : α → ℤ) :
    (xs : List α) → Decidable (AddExactly isFinite units xs)
  | [] => inferInstanceAs (Decidable True)
  | x :: xs => inferInstanceAs (Decidable (ContinuesExactly isFinite units x xs))

theorem ContinuesExactly.foldl (h : ContinuesExactly isFinite units sum xs) :
    isFinite (xs.foldl (· + ·) sum) = true ∧
      units (xs.foldl (· + ·) sum) = units sum + (xs.map units).sum := by
  induction xs generalizing sum with
  | nil => exact ⟨h, by simp⟩
  | cons x xs ih =>
    obtain ⟨-, -, hadd, hrest⟩ := h
    obtain ⟨hfinite, hsum⟩ := ih hrest
    refine ⟨hfinite, ?_⟩
    rw [List.foldl_cons, hsum, hadd, List.map_cons, List.sum_cons, add_assoc]

theorem AddExactly.sumOf (zero : α) (hzero : isFinite zero = true) (hunits : units zero = 0)
    (h : AddExactly isFinite units xs) :
    isFinite (sumOf zero xs) = true ∧ units (sumOf zero xs) = (xs.map units).sum := by
  cases xs with
  | nil => exact ⟨hzero, hunits⟩
  | cons x xs => exact h.foldl

/-- Additions that go around add up to a sum that has gone around. -/
theorem units_sumOf_modEq (units : α → ℤ) {n : ℤ} (zero : α) (hzero : units zero = 0)
    (hadd : ∀ a b, units (a + b) ≡ units a + units b [ZMOD n]) (xs : List α) :
    units (sumOf zero xs) ≡ (xs.map units).sum [ZMOD n] := by
  cases xs with
  | nil => exact congrArg (· % n) hzero
  | cons x xs =>
    change units (xs.foldl (· + ·) x) ≡ units x + (xs.map units).sum [ZMOD n]
    induction xs generalizing x with
    | nil => simp
    | cons y ys ih =>
      calc units (ys.foldl (· + ·) (x + y))
          ≡ units (x + y) + (ys.map units).sum [ZMOD n] := ih (x + y)
        _ ≡ units x + units y + (ys.map units).sum [ZMOD n] := (hadd x y).add_right _
        _ = units x + ((y :: ys).map units).sum := by
            rw [List.map_cons, List.sum_cons, add_assoc]

end sumOf

/-- A sum of words of 64 bits that hold integers is the sum of the integers, as far as the remainders
go. -/
theorem toInt_sumOf_modEq {α : Type} (widen : α → Int64) {value : α → ℤ}
    (h : ∀ a, (widen a).toInt = value a) (xs : List α) :
    (sumOf 0 (xs.map widen)).toInt ≡ (xs.map value).sum [ZMOD 2 ^ 64] := by
  have hadd (a b : Int64) : (a + b).toInt ≡ a.toInt + b.toInt [ZMOD 2 ^ 64] := by
    rw [Int64.toInt_add]
    exact Int.bmod_emod
  have hsum := units_sumOf_modEq Int64.toInt 0 rfl hadd (xs.map widen)
  have hvalue : Int64.toInt ∘ widen = value := funext h
  rwa [List.map_map, hvalue] at hsum

namespace CellType

/-- The number of smallest steps of its type that a finite number is away from zero. -/
def units : (type : CellType) → type.Value → ℤ
  | int64, n => n.toInt
  | int32, n => n.toInt
  | int16, n => n.toInt
  | int8, n => n.toInt
  | word32, n => n.toNat
  | word64, n => n.toNat
  | double, x => Double.units .binary64 x.toModel.unpack
  | single, x => Double.units .binary32 x.toModel.unpack
  | _, _ => 0

/-- The multiples by which a sum goes around; doubles do not. -/
def modulus : CellType → ℤ
  | int64 | word64 => 2 ^ 64
  | int32 | word32 => 2 ^ 32
  | int16 => 2 ^ 16
  | int8 => 2 ^ 8
  | _ => 0

/-- Whether a number is neither infinite nor no number at all. -/
def isFinite : (type : CellType) → type.Value → Bool
  | double, x => x.isFinite
  | single, x => x.isFinite
  | _, _ => true

/-- Whether no addition of the total of values rounds. -/
def AddsExactly : (type : CellType) → List type.Value → Prop
  | double, xs => AddExactly Float.isFinite (units double) xs
  | single, xs => AddExactly Float32.isFinite (units single) xs
  | _, _ => True

instance decidableAddsExactly (type : CellType) (xs : List type.Value) :
    Decidable (type.AddsExactly xs) := by
  cases type <;> first | exact isTrue trivial | exact decidableAddExactly _ _ xs

/-- The exact sum of numbers in smallest steps of their type. -/
def exactSum (type : CellType) (xs : List type.Value) : ℤ := (xs.map type.units).sum

/-- Whether a number is a sum in smallest steps of its type, or what is left of it when words go
around. -/
def IsSum (type : CellType) (sum : ℤ) (x : type.Value) : Prop :=
  type.units x ≡ sum [ZMOD type.modulus]

/-- Whether the sum of values is a number of the type of their total, and no addition of the total
rounds. -/
def HasExactTotal (type : CellType) (xs : List type.Value) : Prop :=
  type.AddsExactly xs ∧ ∃ x, type.totalType.units x = type.exactSum xs

variable {type : CellType} {xs : List type.Value} {x y : type.Value}

@[simp] theorem exactSum_cons : type.exactSum (x :: xs) = type.units x + type.exactSum xs :=
  List.sum_cons

@[simp] theorem exactSum_append (ys : List type.Value) :
    type.exactSum (xs ++ ys) = type.exactSum xs + type.exactSum ys := by
  simp [exactSum]

theorem exactSum_of_perm {ys : List type.Value} (h : xs.Perm ys) :
    type.exactSum xs = type.exactSum ys := (h.map type.units).sum_eq

/-- Words are known by what is left of them, and doubles do not go around. -/
theorem units_eq_of_modEq (h : type.units x ≡ type.units y [ZMOD type.modulus]) :
    type.units x = type.units y := by
  unfold Int.ModEq at h
  cases type with
  | int64 =>
    have hx := Int64.toInt_lt x
    have hx' := Int64.le_toInt x
    have hy := Int64.toInt_lt y
    have hy' := Int64.le_toInt y
    simp only [units, modulus] at h ⊢
    omega
  | int32 =>
    have hx := Int32.toInt_lt x
    have hx' := Int32.le_toInt x
    have hy := Int32.toInt_lt y
    have hy' := Int32.le_toInt y
    simp only [units, modulus] at h ⊢
    omega
  | int16 =>
    have hx := Int16.toInt_lt x
    have hx' := Int16.le_toInt x
    have hy := Int16.toInt_lt y
    have hy' := Int16.le_toInt y
    simp only [units, modulus] at h ⊢
    omega
  | int8 =>
    have hx := Int8.toInt_lt x
    have hx' := Int8.le_toInt x
    have hy := Int8.toInt_lt y
    have hy' := Int8.le_toInt y
    simp only [units, modulus] at h ⊢
    omega
  | word32 =>
    have hx := UInt32.toNat_lt x
    have hy := UInt32.toNat_lt y
    simp only [units, modulus] at h ⊢
    omega
  | word64 =>
    have hx := UInt64.toNat_lt x
    have hy := UInt64.toNat_lt y
    simp only [units, modulus] at h ⊢
    omega
  | _ => simpa only [modulus, Int.emod_zero] using h

/-- A sum that a number of the type has is the exact sum. -/
theorem IsSum.eq_of_fits {sum : ℤ} (h : type.IsSum sum x) (hy : type.units y = sum) :
    type.units x = sum := by
  rw [IsSum, ← hy] at h
  rw [units_eq_of_modEq h, hy]

theorem isSum_of_eq {sum : ℤ} (h : type.units x = sum) : type.IsSum sum x :=
  congrArg (· % type.modulus) h

section groups

variable {type' : CellType} {κ : Type} {groups : List κ} {values : κ → List type.Value}
  {totals : κ → type'.Value}

/-- The sums of groups add up to the sum of all values. -/
theorem exactSum_modEq (h : ∀ g ∈ groups, type'.IsSum (type.exactSum (values g)) (totals g)) :
    type'.exactSum (groups.map totals) ≡ type.exactSum (groups.flatMap values)
      [ZMOD type'.modulus] := by
  induction groups with
  | nil => rfl
  | cons g groups ih =>
    rw [List.forall_mem_cons] at h
    rw [List.map_cons, exactSum_cons, List.flatMap_cons, exactSum_append]
    exact h.1.add (ih h.2)

theorem exactSum_eq (h : ∀ g ∈ groups, type'.units (totals g) = type.exactSum (values g)) :
    type'.exactSum (groups.map totals) = type.exactSum (groups.flatMap values) := by
  induction groups with
  | nil => rfl
  | cons g groups ih =>
    rw [List.forall_mem_cons] at h
    rw [List.map_cons, exactSum_cons, List.flatMap_cons, exactSum_append, h.1, ih h.2]

end groups

/-- A total of totals is of the same type. -/
theorem totalType_totalType (type : CellType) : type.totalType.totalType = type.totalType := by
  cases type <;> rfl

/-- Numbers have a total, which is their sum if no addition rounds. -/
theorem exists_total (h : type.isNumeric = true) :
    ∃ sum : List type.Value → type.totalType.Value, (∀ xs, type.total xs = some (sum xs)) ∧
      (type.totalType.isFinite (sum []) = true ∧ type.totalType.units (sum []) = 0) ∧
      ∀ xs, type.AddsExactly xs → type.totalType.isFinite (sum xs) = true ∧
        type.totalType.IsSum (type.exactSum xs) (sum xs) := by
  -- The additions of words are those of integers, as far as the remainders go.
  cases type with
  | int64 =>
    refine ⟨fun xs => (sumOf 0 xs : Int64), fun _ => rfl, ⟨rfl, rfl⟩, fun xs _ => ⟨rfl, ?_⟩⟩
    have hsum := toInt_sumOf_modEq id (fun _ => rfl) xs
    rwa [List.map_id] at hsum
  | int32 =>
    have hadd (a b : Int32) : (a + b).toInt ≡ a.toInt + b.toInt [ZMOD 2 ^ 32] := by
      rw [Int32.toInt_add]
      exact Int.bmod_emod
    exact ⟨fun xs => (sumOf 0 xs : Int32), fun _ => rfl, ⟨rfl, rfl⟩,
      fun xs _ => ⟨rfl, units_sumOf_modEq Int32.toInt 0 rfl hadd xs⟩⟩
  | int16 =>
    exact ⟨fun xs => (sumOf 0 (xs.map Int16.toInt64) : Int64), fun _ => rfl, ⟨rfl, rfl⟩,
      fun xs _ => ⟨rfl, toInt_sumOf_modEq Int16.toInt64 Int16.toInt_toInt64 xs⟩⟩
  | int8 =>
    exact ⟨fun xs => (sumOf 0 (xs.map Int8.toInt64) : Int64), fun _ => rfl, ⟨rfl, rfl⟩,
      fun xs _ => ⟨rfl, toInt_sumOf_modEq Int8.toInt64 Int8.toInt_toInt64 xs⟩⟩
  | word32 =>
    have hadd (a b : UInt32) : ((a + b).toNat : ℤ) ≡ a.toNat + b.toNat [ZMOD 2 ^ 32] := by
      rw [UInt32.toNat_add]
      push_cast
      exact Int.mod_modEq _ _
    exact ⟨fun xs => (sumOf 0 xs : UInt32), fun _ => rfl, ⟨rfl, rfl⟩,
      fun xs _ => ⟨rfl, units_sumOf_modEq (fun n : UInt32 => (n.toNat : ℤ)) 0 rfl hadd xs⟩⟩
  | word64 =>
    have hadd (a b : UInt64) : ((a + b).toNat : ℤ) ≡ a.toNat + b.toNat [ZMOD 2 ^ 64] := by
      rw [UInt64.toNat_add]
      push_cast
      exact Int.mod_modEq _ _
    exact ⟨fun xs => (sumOf 0 xs : UInt64), fun _ => rfl, ⟨rfl, rfl⟩,
      fun xs _ => ⟨rfl, units_sumOf_modEq (fun n : UInt64 => (n.toNat : ℤ)) 0 rfl hadd xs⟩⟩
  | double =>
    refine ⟨fun xs => (sumOf 0 xs : Float), fun _ => rfl, ⟨rfl, rfl⟩, fun xs hxs => ?_⟩
    obtain ⟨hfinite, hsum⟩ := AddExactly.sumOf (0 : Float) rfl rfl hxs
    exact ⟨hfinite, @isSum_of_eq double _ _ hsum⟩
  | single =>
    refine ⟨fun xs => (sumOf 0 xs : Float32), fun _ => rfl, ⟨rfl, rfl⟩, fun xs hxs => ?_⟩
    obtain ⟨hfinite, hsum⟩ := AddExactly.sumOf (0 : Float32) rfl rfl hxs
    exact ⟨hfinite, @isSum_of_eq single _ _ hsum⟩
  | _ => cases h

/-- A finite number that does not come before another one is no smaller. -/
theorem units_le_units (hnumeric : type.isNumeric = true) (hx : type.isFinite x = true)
    (hy : type.isFinite y = true) (h : type.before y x = false) : type.units x ≤ type.units y := by
  cases type with
  | int64 => exact Int64.le_iff_toInt_le.mp (by simpa [before] using h)
  | int32 => exact Int32.le_iff_toInt_le.mp (by simpa [before] using h)
  | int16 => exact Int16.le_iff_toInt_le.mp (by simpa [before] using h)
  | int8 => exact Int8.le_iff_toInt_le.mp (by simpa [before] using h)
  | word32 => exact Int.ofNat_le.mpr (UInt32.le_iff_toNat_le.mp (by simpa [before] using h))
  | word64 => exact Int.ofNat_le.mpr (UInt64.le_iff_toNat_le.mp (by simpa [before] using h))
  | double =>
    exact Double.units_le_units (Double.isCanonical_unpack hx) (Double.isCanonical_unpack hy)
      ((Double.decide_lt y x).symm.trans h)
  | single =>
    exact Double.units_le_units (Double.isCanonical_unpack hx) (Double.isCanonical_unpack hy)
      ((Double.decide_lt32 y x).symm.trans h)
  | _ => cases hnumeric

end CellType

end Meteogram
