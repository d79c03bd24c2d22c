import Mathlib.Tactic
import Meteogram.Proofs.Archive.Summary

/-!
# What a summary says of a group

The least and the greatest cell of a group are values of the group that no other value passes, and a
mean is the quotient of sum and number. Where there are no values, there is neither. In a column that
is not put together from parts, what is no number is no extreme beside numbers.
-/
open Float.Model (UnpackedFloat)
open Float.Model.UnpackedFloat (isNaN_iff)

namespace Meteogram

/-- Where values are compared by their ranks, none of them comes before the least one. -/
theorem rank_le_of_leastOf? {α β : Type} [LinearOrder β] {before : α → α → Bool} {rank : α → β}
    {xs : List α} (h : ∀ a ∈ xs, ∀ b ∈ xs, before a b = true ↔ rank a < rank b) {x : α}
    (hx : leastOf? before xs = some x) : ∀ y ∈ xs, rank x ≤ rank y := by
  cases xs with
  | nil => cases hx
  | cons a rest =>
    cases hx
    induction rest generalizing a with
    | nil => simp
    | cons b rest ih =>
      have hab := h a (by simp) b (by simp)
      rw [List.foldl_cons]
      split_ifs with hlt
      · have hsub : a :: rest ⊆ a :: b :: rest := List.cons_subset_cons a (List.subset_cons_self b rest)
        have hkept := ih a fun z hz w hw => h z (hsub hz) w (hsub hw)
        rw [List.forall_mem_cons] at hkept
        have hb := hkept.1.trans (hab.mp hlt).le
        simpa using ⟨hkept.1, hb, hkept.2⟩
      · have hkept := ih b fun z hz w hw => h z (List.mem_cons_of_mem a hz) w (List.mem_cons_of_mem a hw)
        rw [List.forall_mem_cons] at hkept
        have ha := hkept.1.trans (not_lt.mp (mt hab.mpr hlt))
        simpa using ⟨ha, hkept⟩

/-- Whether numbers add up to a sum from left to right. The sum starts from the first one of them or,
where cells are missing beside them, from zero. -/
def IsLeftSum {α : Type} [Add α] (zero : α) (xs : List α) (sum : α) : Prop :=
  (∃ first rest, xs = first :: rest ∧ sum = rest.foldl (· + ·) first) ∨ sum = xs.foldl (· + ·) zero

theorem isLeftSum_sum {α : Type} [Add α] (how : Averaging) (zero : α) (xs : List α) :
    IsLeftSum zero xs (how.sum zero xs) := by
  cases how with
  | fromZero => exact .inr rfl
  | alone | fromFirst =>
    cases xs with
    | nil => exact .inr rfl
    | cons first rest => exact .inl ⟨first, rest, rfl, rfl⟩

/-- Whether a double is the quotient of the sum and the number of doubles. -/
def IsMeanOf (xs : List Float) (x : Float) : Prop :=
  ∃ sum, IsLeftSum 0 xs sum ∧ x = sum / Float.ofNat xs.length

theorem isMeanOf_of_meanOf? {how : Averaging} {xs : List Float} {x : Float}
    (h : meanOf? how xs = some x) : IsMeanOf xs x := by
  unfold meanOf? at h
  split_ifs at h
  exact ⟨_, isLeftSum_sum how 0 xs, (Option.some.inj h).symm⟩

theorem meanOf?_eq_none_iff {how : Averaging} {xs : List Float} :
    meanOf? how xs = none ↔ xs = [] := by
  cases xs <;> simp [meanOf?]

namespace CellType

/-- Whether a cell is an extreme of values: it is missing if there are none, and otherwise one of them
before which no other one comes. -/
structure IsExtreme (type : CellType) (before : type.Value → type.Value → Bool) (parts : List ℕ)
    (xs : List type.Value) (cell : Option type.Value) : Prop where
  eq_none_iff : cell = none ↔ xs = []
  mem : ∀ x, cell = some x → x ∈ xs
  not_before : ∀ x, cell = some x → ∀ y ∈ xs, before y x = false
  isNaN : parts = [] → ∀ x, cell = some x → type.isNaN x = true → ∀ y ∈ xs, type.isNaN y = true

/-- Whether a number is the quotient of the sum and the number of values, integers being taken for the
doubles nearest to them. The quotient of singles is rounded to a single. -/
def IsQuotient : (type : CellType) → List type.Value → type.meanType.Value → Prop
  | double, xs, x => IsMeanOf xs x
  | single, xs, x =>
    ∃ sum : Float32, IsLeftSum 0 xs sum ∧ x = (sum.toFloat / Float.ofNat xs.length).toFloat32
  | int64, xs, x => IsMeanOf (xs.map nearestDouble) x
  | int32, xs, x | int16, xs, x | int8, xs, x => IsMeanOf (xs.map fun n => nearestDouble n.toInt64) x
  | word32, xs, x => IsMeanOf (xs.map UInt32.toFloat) x
  | word64, xs, x => IsMeanOf (xs.map UInt64.toFloat) x
  | _, _, _ => False

/-- Whether a cell is the mean of values: it is missing if there are none. -/
structure IsMean (type : CellType) (xs : List type.Value) (cell : Option type.meanType.Value) :
    Prop where
  eq_none_iff : cell = none ↔ xs = []
  isQuotient : ∀ x, cell = some x → type.IsQuotient xs x

/-- What a summary says of the values of a group, in a column that is put together from parts. -/
def IsSummary (type : CellType) (parts : List ℕ) :
    (s : Summary) → List type.Value → Option (type.summaryType s).Value → Prop
  | .least, xs, cell => type.IsExtreme type.before parts xs cell
  | .greatest, xs, cell => type.IsExtreme (fun a b => type.before b a) parts xs cell
  | .total, xs, cell => cell = type.total xs
  | .mean, xs, cell => type.IsMean xs cell

variable {type : CellType} {xs ys : List type.Value} {order : CellOrder} {parts : List ℕ}

/-- Numbers are compared by their ranks, and what is no number by nothing. -/
theorem exists_rank (h : type.isNumeric = true) :
    ∃ rank : type.Value → ℤ ×ₗ ℤ ×ₗ ℤ, ∀ a b, type.before a b = true ↔
      type.isNaN a = false ∧ type.isNaN b = false ∧ rank a < rank b := by
  have hword (m n : ℤ) : m < n ↔ false = false ∧ false = false ∧
      (toLex (m, toLex (0, 0)) : ℤ ×ₗ ℤ ×ₗ ℤ) < toLex (n, toLex (0, 0)) := by
    simp [Prod.Lex.toLex_lt_toLex]
  have hfloat (u v : UnpackedFloat) :
      u.lt v = true ↔ u.isNaN = false ∧ v.isNaN = false ∧ Double.rank u < Double.rank v := by
    simp only [Double.lt_iff, ne_eq, ← isNaN_iff, Bool.not_eq_true]
  cases type with
  | int64 =>
    refine ⟨fun n : Int64 => toLex (n.toInt, toLex (0, 0)), fun a b => ?_⟩
    exact (decide_eq_true_iff.trans Int64.lt_iff_toInt_lt).trans (hword _ _)
  | int32 =>
    refine ⟨fun n : Int32 => toLex (n.toInt, toLex (0, 0)), fun a b => ?_⟩
    exact (decide_eq_true_iff.trans Int32.lt_iff_toInt_lt).trans (hword _ _)
  | int16 =>
    refine ⟨fun n : Int16 => toLex (n.toInt, toLex (0, 0)), fun a b => ?_⟩
    exact (decide_eq_true_iff.trans Int16.lt_iff_toInt_lt).trans (hword _ _)
  | int8 =>
    refine ⟨fun n : Int8 => toLex (n.toInt, toLex (0, 0)), fun a b => ?_⟩
    exact (decide_eq_true_iff.trans Int8.lt_iff_toInt_lt).trans (hword _ _)
  | word32 =>
    refine ⟨fun n : UInt32 => toLex ((n.toNat : ℤ), toLex (0, 0)), fun a b => ?_⟩
    exact ((decide_eq_true_iff.trans UInt32.lt_iff_toNat_lt).trans Nat.cast_lt.symm).trans
      (hword _ _)
  | word64 =>
    refine ⟨fun n : UInt64 => toLex ((n.toNat : ℤ), toLex (0, 0)), fun a b => ?_⟩
    exact ((decide_eq_true_iff.trans UInt64.lt_iff_toNat_lt).trans Nat.cast_lt.symm).trans
      (hword _ _)
  | double =>
    refine ⟨fun x : Float => Double.rank x.toModel.unpack, fun a b => ?_⟩
    exact (Bool.eq_iff_iff.mp (Double.decide_lt a b)).trans (hfloat _ _)
  | single =>
    refine ⟨fun x : Float32 => Double.rank x.toModel.unpack, fun a b => ?_⟩
    exact (Bool.eq_iff_iff.mp (Double.decide_lt32 a b)).trans (hfloat _ _)
  | _ => cases h

theorem ranked_eq (type : CellType) (xs : List type.Value) : type.ranked xs =
    if xs.all type.isNaN then xs else xs.filter fun x => !type.isNaN x := by
  cases type with
  | double => rfl
  | single => rfl
  | _ => simp [ranked, isNaN]

section IsExtreme

variable {before : type.Value → type.Value → Bool}

/-- A scan of the values that count gives an extreme. -/
theorem isExtreme_leastOf? {β : Type} [LinearOrder β] {rank : type.Value → β}
    (h : ∀ a b, before a b = true ↔
      type.isNaN a = false ∧ type.isNaN b = false ∧ rank a < rank b) (parts : List ℕ)
    (xs : List type.Value) : type.IsExtreme before parts xs (leastOf? before (type.ranked xs)) := by
  have hmem : ∀ x, leastOf? before (type.ranked xs) = some x → x ∈ xs :=
    (isChoice_ranked before xs).1
  have hnone : leastOf? before (type.ranked xs) = none ↔ xs = [] := by
    refine ⟨(isChoice_ranked before xs).2, ?_⟩
    rintro rfl
    simp [ranked_eq, leastOf?]
  by_cases hall : xs.all type.isNaN = true
  · have hnan : ∀ y ∈ xs, type.isNaN y = true := List.all_eq_true.mp hall
    refine ⟨hnone, hmem, fun x _ y hy => ?_, fun _ _ _ _ => hnan⟩
    rw [← Bool.not_eq_true, h, hnan y hy]
    simp
  · have hranked : type.ranked xs = xs.filter fun x => !type.isNaN x := by
      rw [ranked_eq, if_neg hall]
    rw [hranked] at hmem hnone ⊢
    have hnumber : ∀ x, leastOf? before (xs.filter fun x => !type.isNaN x) = some x →
        type.isNaN x = false := by
      intro x hx
      have hcounted := ((isChoice_leastOf? before) _).1 x hx
      simpa using List.of_mem_filter hcounted
    have hrank : ∀ a ∈ xs.filter (fun x => !type.isNaN x), ∀ b ∈ xs.filter (fun x => !type.isNaN x),
        before a b = true ↔ rank a < rank b := by
      intro a ha b hb
      have ha' : type.isNaN a = false := by simpa using List.of_mem_filter ha
      have hb' : type.isNaN b = false := by simpa using List.of_mem_filter hb
      simp [h, ha', hb']
    refine ⟨hnone, hmem, fun x hx y hy => ?_, fun _ x hx hnan => ?_⟩
    · rw [← Bool.not_eq_true, h]
      rintro ⟨hy', -, hlt⟩
      have hcounted : y ∈ xs.filter fun x => !type.isNaN x := List.mem_filter.mpr ⟨hy, by simp [hy']⟩
      exact hlt.not_ge (rank_le_of_leastOf? hrank hx y hcounted)
    · rw [hnumber x hx] at hnan
      cases hnan

theorem IsExtreme.of_mem_iff {cell : Option type.Value} (h : type.IsExtreme before parts ys cell)
    (hmem : ∀ x, x ∈ xs ↔ x ∈ ys) : type.IsExtreme before parts xs cell where
  eq_none_iff := by
    rw [h.eq_none_iff, List.eq_nil_iff_forall_not_mem, List.eq_nil_iff_forall_not_mem]
    simp only [hmem]
  mem x hx := (hmem x).mpr (h.mem x hx)
  not_before x hx y hy := h.not_before x hx y ((hmem y).mp hy)
  isNaN hparts x hx hnan y hy := h.isNaN hparts x hx hnan y ((hmem y).mp hy)

/-- Of values none of which comes before an earlier one the first one is an extreme. -/
theorem isExtreme_head? (hirrefl : ∀ a, before a a = false)
    (h : xs.Pairwise fun a b => before b a = false) (hone : parts = [] → xs.length ≤ 1) :
    type.IsExtreme before parts xs xs.head? := by
  cases xs with
  | nil => exact ⟨by simp, by simp, by simp, by simp⟩
  | cons x rest =>
    refine ⟨by simp, by simp, ?_, ?_⟩
    · rintro _ ⟨⟩ y hy
      rcases List.mem_cons.mp hy with rfl | hy
      · exact hirrefl y
      · exact List.rel_of_pairwise_cons h hy
    · rintro hparts _ ⟨⟩ hnan y hy
      have hrest : rest = [] := by simpa using hone hparts
      rw [hrest, List.mem_singleton] at hy
      rw [hy, hnan]

/-- Of values none of which comes before a later one the last one is an extreme. -/
theorem isExtreme_getLast? (hirrefl : ∀ a, before a a = false)
    (h : xs.Pairwise fun a b => before a b = false) (hone : parts = [] → xs.length ≤ 1) :
    type.IsExtreme before parts xs xs.getLast? := by
  rw [List.getLast?_eq_head?_reverse]
  refine IsExtreme.of_mem_iff ?_ fun x => List.mem_reverse.symm
  exact isExtreme_head? hirrefl (List.pairwise_reverse.mpr h) (by simpa using hone)

/-- Extremes are extremes in any order that the values of the column are known to have. -/
theorem isExtreme_least_greatest (hnumeric : type.isNumeric = true) (ho : order.Holds type.upTo ys)
    (hsub : xs.Sublist ys) (hone : parts = [] → order ≠ .unknown → xs.length ≤ 1) :
    type.IsExtreme type.before parts xs (type.least order xs) ∧
      type.IsExtreme (fun a b => type.before b a) parts xs (type.greatest order xs) := by
  obtain ⟨rank, hrank⟩ := exists_rank hnumeric
  have hirrefl : ∀ a, type.before a a = false := by
    intro a
    rw [← Bool.not_eq_true, hrank]
    rintro ⟨-, -, hlt⟩
    exact lt_irrefl _ hlt
  have hdual : ∀ a b, type.before b a = true ↔ type.isNaN a = false ∧ type.isNaN b = false ∧
      OrderDual.toDual (rank a) < OrderDual.toDual (rank b) := by
    intro a b
    rw [hrank, OrderDual.toDual_lt_toDual]
    tauto
  have hscan : type.IsExtreme type.before parts xs (type.least .unknown xs) ∧
      type.IsExtreme (fun a b => type.before b a) parts xs (type.greatest .unknown xs) := by
    unfold least greatest
    cases type.isFloating <;>
      exact ⟨isExtreme_leastOf? hrank parts xs, isExtreme_leastOf? hdual parts xs⟩
  by_cases hfloating : type.isFloating = true
  · have htrans : ∀ a b c, type.upTo a b = true → type.upTo b c = true → type.upTo a c = true :=
      fun a b c => upTo_trans hfloating
    cases order with
    | unknown => exact hscan
    | rising =>
      have hpairwise := ((ho.pairwise_rising htrans).sublist hsub).imp (not_before_of_upTo hfloating)
      simp only [least, greatest, hfloating]
      exact ⟨isExtreme_head? hirrefl hpairwise (hone · (by decide)),
        isExtreme_getLast? hirrefl hpairwise (hone · (by decide))⟩
    | falling =>
      have hpairwise := ((ho.pairwise_falling htrans).sublist hsub).imp (not_before_of_upTo hfloating)
      simp only [least, greatest, hfloating]
      exact ⟨isExtreme_getLast? hirrefl hpairwise (hone · (by decide)),
        isExtreme_head? hirrefl hpairwise (hone · (by decide))⟩
  · simpa [least, greatest, hfloating] using hscan

end IsExtreme

theorem isMean_mean (hnumeric : type.isNumeric = true) (how : Averaging) (xs : List type.Value) :
    type.IsMean xs (mean how type xs) := by
  cases type with
  | double => exact ⟨meanOf?_eq_none_iff, fun _ => isMeanOf_of_meanOf?⟩
  | single =>
    refine ⟨by cases xs <;> simp [mean], fun x hx => ?_⟩
    simp only [mean] at hx
    split_ifs at hx
    exact ⟨_, isLeftSum_sum how 0 xs, (Option.some.inj hx).symm⟩
  | int64 | int32 | int16 | int8 | word32 | word64 =>
    exact ⟨meanOf?_eq_none_iff.trans List.map_eq_nil_iff, fun _ => isMeanOf_of_meanOf?⟩
  | _ => cases hnumeric

/-- The mean of doubles is known where their sum does not depend on where it starts. -/
theorem IsMean.eq_meanOf? {xs : List Float} {cell : Option Float} (h : IsMean double xs cell)
    (hsum : xs.foldl (· + ·) 0 = sumOf 0 xs) : cell = meanOf? .fromFirst xs := by
  cases cell with
  | none => exact (meanOf?_eq_none_iff.mpr (h.eq_none_iff.mp rfl)).symm
  | some x =>
    obtain ⟨sum, hleft, rfl⟩ := h.isQuotient x rfl
    have hne : xs ≠ [] := fun hnil => nomatch h.eq_none_iff.mpr hnil
    have heq : sum = sumOf 0 xs := by
      rcases hleft with ⟨first, rest, rfl, rfl⟩ | rfl
      · rfl
      · exact hsum
    rw [heq, meanOf?, if_neg (by simpa using hne)]
    rfl

end CellType

/-- What is summarised of rows of a column of numbers is what a summary says of their values. -/
theorem Column.isSummary {c : Column} (hnumeric : c.type.isNumeric = true) (parts : List ℕ)
    {rows : List ℕ} (hrows : rows.Sublist (List.range c.cells.length)) (s : Summary) :
    c.type.IsSummary parts s (rows.filterMap c.cell)
      (c.type.summarise (c.orderIn parts) (c.averaging rows) s (rows.filterMap c.cell)) := by
  have hsub : (rows.filterMap c.cell).Sublist c.values := by
    rw [← values_pick]
    exact sublist_values_pick hrows
  have hone : parts = [] → c.orderIn parts ≠ .unknown → (rows.filterMap c.cell).length ≤ 1 := by
    rintro rfl ho
    exact hsub.length_le.trans (length_values_le_one ho)
  obtain ⟨hleast, hgreatest⟩ := CellType.isExtreme_least_greatest hnumeric (c.holds_orderIn parts)
    hsub hone
  cases s with
  | least => exact hleast
  | greatest => exact hgreatest
  | total => rfl
  | mean => exact CellType.isMean_mean hnumeric _ _

end Meteogram
