import Mathlib.Data.List.ReduceOption
import Mathlib.Tactic
import Meteogram.Archive.Summary
import Meteogram.Proofs.Archive.Order
import Meteogram.Proofs.Archive.Window
import Meteogram.Proofs.Double.Order
import Meteogram.Proofs.Double.Zero

/-!
# Summaries that depend on their rows alone

A summary of a group is computed with what is known of the whole column: whether it is in an order,
whether cells of it are missing, whether it has one row. Where the values can be compared, a known
order changes no extreme. Where no negative zero stands beside missing cells and every value is its
own mean, the rest changes no mean. Such a column is local, and so are its parts.
-/
namespace Meteogram

section leastOf

variable {α : Type} {before : α → α → Bool} {xs : List α}

/-- Of values that come one after another the first one is least. -/
theorem leastOf?_eq_head? (h : xs.Pairwise fun a b => a = b ∨ before a b = true) :
    leastOf? before xs = xs.head? := by
  cases xs with
  | nil => rfl
  | cons x rest =>
    have hfirst : ∀ y ∈ rest, x = y ∨ before x y = true := (List.pairwise_cons.mp h).1
    rw [leastOf?, List.head?_cons]
    congr 1
    clear h
    induction rest with
    | nil => rfl
    | cons y rest ih =>
      rw [List.forall_mem_cons] at hfirst
      have hkept : (if before x y then x else y) = x := by
        rcases hfirst.1 with rfl | hlt
        · exact ite_self x
        · exact if_pos hlt
      rw [List.foldl_cons, hkept]
      exact ih hfirst.2

/-- Of values none of which comes before a later one the last one is least. -/
theorem leastOf?_eq_getLast? (h : xs.Pairwise fun a b => before a b = false) :
    leastOf? before xs = xs.getLast? := by
  cases xs with
  | nil => rfl
  | cons x rest =>
    rw [leastOf?, List.getLast?_cons]
    congr 1
    induction rest generalizing x with
    | nil => rfl
    | cons y rest ih =>
      have hxy : before x y = false := List.rel_of_pairwise_cons h List.mem_cons_self
      rw [List.foldl_cons, hxy, if_neg Bool.false_ne_true, List.getLast?_cons, Option.getD_some]
      exact ih y h.of_cons

/-- A choice gives one of the values, if there are any. -/
def IsChoice (choose : List α → Option α) : Prop :=
  ∀ xs, (∀ x, choose xs = some x → x ∈ xs) ∧ (choose xs = none → xs = [])

theorem isChoice_head? : IsChoice (List.head? : List α → Option α) :=
  fun _ => ⟨fun _ => List.mem_of_head?, List.head?_eq_none_iff.mp⟩

theorem isChoice_getLast? : IsChoice (List.getLast? : List α → Option α) :=
  fun _ => ⟨fun _ => List.mem_of_getLast?, List.getLast?_eq_none_iff.mp⟩

theorem isChoice_leastOf? (before : α → α → Bool) : IsChoice (leastOf? before) := by
  intro xs
  cases xs with
  | nil => exact ⟨by simp [leastOf?], fun _ => rfl⟩
  | cons x rest =>
    refine ⟨?_, fun h => by cases h⟩
    rintro y ⟨⟩
    induction rest generalizing x with
    | nil => exact List.mem_singleton_self x
    | cons z rest ih =>
      have hmem := ih (if before x z then x else z)
      rw [List.foldl_cons]
      split_ifs at hmem ⊢ <;> simp only [List.mem_cons] at hmem ⊢ <;> tauto

/-- The choice of the values of cells is one of the cells, be it a missing one. -/
theorem IsChoice.mem_cells {choose : List α → Option α} (h : IsChoice choose)
    {cells : List (Option α)} (hcells : cells ≠ []) : choose cells.reduceOption ∈ cells := by
  cases hx : choose cells.reduceOption with
  | some x => exact List.reduceOption_mem_iff.mp ((h _).1 x hx)
  | none =>
    obtain ⟨n, hn⟩ := (List.reduceOption_eq_nil_iff cells).mp ((h _).2 hx)
    cases n with
    | zero => exact absurd hn hcells
    | succ n => simp [hn, List.replicate_succ]

end leastOf

namespace CellOrder

variable {α : Type} {upTo : α → α → Bool} {xs : List α}

theorem Holds.pairwise_rising (htrans : ∀ a b c, upTo a b = true → upTo b c = true → upTo a c = true)
    (h : rising.Holds upTo xs) : xs.Pairwise fun a b => upTo a b = true := by
  have : Trans (fun a b => upTo a b = true) (fun a b => upTo a b = true)
    fun a b => upTo a b = true := ⟨htrans _ _ _⟩
  exact List.isChain_iff_pairwise.mp h

theorem Holds.pairwise_falling
    (htrans : ∀ a b c, upTo a b = true → upTo b c = true → upTo a c = true)
    (h : falling.Holds upTo xs) : xs.Pairwise fun a b => upTo b a = true := by
  have hflip : rising.Holds (fun a b => upTo b a) xs := h
  exact hflip.pairwise_rising fun a b c hab hbc => htrans c b a hbc hab

end CellOrder

namespace CellType

variable {type : CellType} {xs ys : List type.Value} {order : CellOrder}

/-! ### Extremes -/

theorem AreComparable.of_subset (h : type.AreComparable ys) (hsub : xs ⊆ ys) :
    type.AreComparable xs :=
  fun a ha b hb => h a (hsub ha) b (hsub hb)

theorem areComparable_of_length_le_one (h : xs.length ≤ 1) : type.AreComparable xs := by
  intro a ha b hb hne
  cases xs with
  | nil => cases ha
  | cons x rest =>
    have hrest : rest = [] := by simpa using h
    rw [hrest, List.mem_singleton] at ha hb
    exact absurd (ha.trans hb.symm) hne

/-- Of two values that can be compared one comes before the other or they are equal. -/
theorem AreComparable.before_of_upTo (h : type.AreComparable xs) (hfloating : type.isFloating = true)
    {a b : type.Value} (ha : a ∈ xs) (hb : b ∈ xs) (hab : type.upTo a b = true) :
    a = b ∨ type.before a b = true := by
  by_cases heq : a = b
  · exact .inl heq
  · refine .inr ((h a ha b hb heq).resolve_right ?_)
    rw [not_before_of_upTo hfloating hab]
    exact Bool.false_ne_true

/-- A known order of values that can be compared changes none of their extremes. -/
theorem extremes_eq (hfloating : type.isFloating = true) (h : type.AreComparable ys)
    (ho : order.Holds type.upTo ys) (hsub : xs.Sublist ys) :
    type.least order xs = type.least .unknown xs ∧
      type.greatest order xs = type.greatest .unknown xs := by
  have hxs := h.of_subset hsub.subset
  have htrans : ∀ a b c, type.upTo a b = true → type.upTo b c = true → type.upTo a c = true :=
    fun a b c => upTo_trans hfloating
  -- In order, the first value is an extreme as it comes before the others, and the last one as none
  -- comes before it: a scan keeps the last of several that are extreme.
  cases order with
  | unknown => exact ⟨rfl, rfl⟩
  | rising =>
    have hpairwise := (ho.pairwise_rising htrans).sublist hsub
    simp only [least, greatest, hfloating, hxs.ranked_eq hfloating]
    constructor
    · exact (leastOf?_eq_head? (hpairwise.imp_of_mem (hxs.before_of_upTo hfloating))).symm
    · exact (leastOf?_eq_getLast? (hpairwise.imp (not_before_of_upTo hfloating))).symm
  | falling =>
    have hpairwise := (ho.pairwise_falling htrans).sublist hsub
    simp only [least, greatest, hfloating, hxs.ranked_eq hfloating]
    constructor
    · exact (leastOf?_eq_getLast? (hpairwise.imp (not_before_of_upTo hfloating))).symm
    · refine (leastOf?_eq_head? (hpairwise.imp_of_mem ?_)).symm
      intro a b ha hb hab
      exact (hxs.before_of_upTo hfloating hb ha hab).imp_left Eq.symm

theorem ranked_subset (type : CellType) (xs : List type.Value) : type.ranked xs ⊆ xs := by
  by_cases h : type.isFloating = true
  · obtain ⟨unpacked, -, -, hranked⟩ := exists_unpacked h
    rw [hranked]
    split_ifs
    · exact List.Subset.refl xs
    · exact List.filter_subset_self xs
  · cases type <;> first | exact List.Subset.refl xs | exact absurd rfl h

theorem ranked_eq_nil {type : CellType} {xs : List type.Value} (h : type.ranked xs = []) :
    xs = [] := by
  by_cases hfloating : type.isFloating = true
  · obtain ⟨unpacked, -, -, hranked⟩ := exists_unpacked hfloating
    rw [hranked] at h
    split_ifs at h with hall
    · exact h
    · simp only [List.filter_eq_nil_iff, Bool.not_eq_true', Bool.not_eq_false] at h
      exact absurd (List.all_eq_true.mpr h) hall
  · cases type <;> first | exact h | exact absurd rfl hfloating

theorem isChoice_ranked (before : type.Value → type.Value → Bool) :
    IsChoice fun xs => leastOf? before (type.ranked xs) := by
  intro xs
  obtain ⟨hmem, hnone⟩ := isChoice_leastOf? before (type.ranked xs)
  exact ⟨fun x hx => type.ranked_subset xs (hmem x hx), fun h => ranked_eq_nil (hnone h)⟩

theorem isChoice_least (type : CellType) (order : CellOrder) : IsChoice (type.least order) := by
  unfold least
  cases type.isFloating <;> cases order <;>
    first | exact isChoice_ranked _ | exact isChoice_head? | exact isChoice_getLast?

theorem isChoice_greatest (type : CellType) (order : CellOrder) :
    IsChoice (type.greatest order) := by
  unfold greatest
  cases type.isFloating <;> cases order <;>
    first | exact isChoice_ranked _ | exact isChoice_head? | exact isChoice_getLast?

/-! ### Means -/

/-- Whether a value is the negative zero, which is lost in a sum that starts from zero. -/
def IsNegZero : (type : CellType) → type.Value → Prop
  | double, x => x = -0.0
  | single, x => x = -0.0
  | _, _ => False

/-- Whether the mean of a value alone is the one that it has among others. A timestamp is rounded to a
double among others. -/
def IsOwnMean (type : CellType) (x : type.Value) : Prop :=
  mean .alone type [x] = mean .fromFirst type [x]

theorem sum_fromZero {α : Type} [Add α] {zero : α} {xs : List α} (h : ∀ x ∈ xs, zero + x = x) :
    Averaging.fromZero.sum zero xs = Averaging.fromFirst.sum zero xs := by
  cases xs with
  | nil => rfl
  | cons x rest =>
    change (x :: rest).foldl (· + ·) zero = rest.foldl (· + ·) x
    rw [List.foldl_cons, h x List.mem_cons_self]

theorem meanOf?_fromZero {xs : List Float} (h : ∀ x ∈ xs, x ≠ -0.0) :
    meanOf? .fromZero xs = meanOf? .fromFirst xs := by
  rw [meanOf?, meanOf?, sum_fromZero fun x hx => Double.zero_add_of_ne (h x hx)]

/-- Without negative zeros a mean may be summed up from zero. -/
theorem mean_fromZero (h : ∀ x ∈ xs, ¬ type.IsNegZero x) :
    mean .fromZero type xs = mean .fromFirst type xs := by
  cases type with
  | int64 => exact meanOf?_fromZero (List.forall_mem_map.mpr fun n _ => Double.nearestDouble_ne n)
  | int32 | int16 | int8 =>
    exact meanOf?_fromZero (List.forall_mem_map.mpr fun n _ => Double.nearestDouble_ne n.toInt64)
  | word32 => exact meanOf?_fromZero (List.forall_mem_map.mpr fun n _ => Double.toFloat32_ne n)
  | word64 => exact meanOf?_fromZero (List.forall_mem_map.mpr fun n _ => Double.toFloat_ne n)
  | double => exact meanOf?_fromZero h
  | single =>
    simp only [mean]
    rw [sum_fromZero fun x hx => Double.zero_add_of_ne32 (h x hx)]
  | text => rfl
  | bool =>
    have hcount : ∀ b : Bool, Float.ofNat b.toNat ≠ -0.0 := by decide +kernel
    exact meanOf?_fromZero (List.forall_mem_map.mpr fun b _ => hcount b)
  | date =>
    simp only [mean]
    rw [meanOf?_fromZero (List.forall_mem_map.mpr fun n _ => Double.nearestDouble_ne n.toInt64)]
  | ticks unit =>
    simp only [mean, meanCount?]
    rw [meanOf?_fromZero (List.forall_mem_map.mpr fun n _ => Double.nearestDouble_ne n)]

theorem mean_alone (hlength : xs.length ≤ 1) (h : ∀ x ∈ xs, type.IsOwnMean x) :
    mean .alone type xs = mean .fromFirst type xs := by
  cases xs with
  | nil => cases type <;> rfl
  | cons x rest =>
    have hrest : rest = [] := by simpa using hlength
    rw [hrest]
    exact h x List.mem_cons_self

/-- Whether means of cells are the same, however they are formed. -/
structure AveragesAlike (type : CellType) (cells : List (Option type.Value)) : Prop where
  not_isNegZero : none ∈ cells → ∀ x, some x ∈ cells → ¬ type.IsNegZero x
  isOwnMean : ∀ x, some x ∈ cells → type.IsOwnMean x

theorem AveragesAlike.of_subset {cells cells' : List (Option type.Value)}
    (h : type.AveragesAlike cells) (hsub : cells' ⊆ cells) : type.AveragesAlike cells' where
  not_isNegZero hnone x hx := h.not_isNegZero (hsub hnone) x (hsub hx)
  isOwnMean x hx := h.isOwnMean x (hsub hx)

end CellType

namespace Column

variable {c : Column} {parts parts' rows : List ℕ} {s : Summary}

/-- The cells that are not missing. -/
def values (c : Column) : List c.type.Value := c.cells.reduceOption

/-- Whether extremes are the same, whatever order is known: of a column of doubles that is put
together from parts the values can be compared. -/
def RanksAlike (c : Column) (parts : List ℕ) : Prop :=
  c.type.isFloating = true → parts ≠ [] → c.type.AreComparable c.values

/-- Whether a summary of rows depends on no other rows. -/
def IsLocal (c : Column) (parts : List ℕ) : Summary → Prop
  | .least | .greatest => c.RanksAlike parts
  | .total => True
  | .mean => c.type.AveragesAlike c.cells

theorem values_pick (rows : List ℕ) : (c.pick rows).values = rows.filterMap c.cell := by
  change (rows.map c.cell).reduceOption = _
  rw [List.reduceOption, List.filterMap_map]
  rfl

theorem sublist_pick (hrows : rows.Sublist (List.range c.cells.length)) :
    (c.pick rows).cells.Sublist c.cells := by
  have h := hrows.map c.cell
  rwa [c.map_cell] at h

theorem sublist_values_pick (hrows : rows.Sublist (List.range c.cells.length)) :
    (c.pick rows).values.Sublist c.values :=
  (sublist_pick hrows).filterMap id

theorem holds_orderIn (c : Column) (parts : List ℕ) :
    (c.orderIn parts).Holds c.type.upTo c.values := by
  unfold orderIn
  split_ifs with h
  · trivial
  · have hcells : c.values.map some = c.cells := by
      rw [values, List.reduceOption, List.map_filterMap_some_eq_filter_map_isSome, List.map_id,
        List.filter_eq_self]
      intro cell hcell
      rw [Option.isSome_iff_ne_none]
      rintro rfl
      exact h (List.any_eq_true.mpr ⟨none, hcell, rfl⟩)
    rw [← hcells]
    exact CellOrder.holds_ofParts c.type.upTo parts c.values

/-- Without parts an order is known only of one cell. -/
theorem length_values_le_one (ho : c.orderIn [] ≠ .unknown) : c.values.length ≤ 1 := by
  refine (List.reduceOption_length_le c.cells).trans ?_
  by_contra hmany
  apply ho
  unfold orderIn
  split_ifs
  · rfl
  · have hne : c.cells ≠ [] := by
      intro hnil
      simp [hnil] at hmany
    simp [inParts, hne, CellOrder.ofParts, Stretch.ofCells, hmany]

theorem RanksAlike.areComparable (h : c.RanksAlike parts) (hfloating : c.type.isFloating = true)
    (ho : c.orderIn parts ≠ .unknown) : c.type.AreComparable c.values := by
  by_cases hparts : parts = []
  · exact CellType.areComparable_of_length_le_one (length_values_le_one (hparts ▸ ho))
  · exact h hfloating hparts

/-- The cell of a group in a local column is computed without regard to the other rows. -/
theorem IsLocal.summarise_eq (h : c.IsLocal parts s)
    (hrows : rows.Sublist (List.range c.cells.length)) :
    c.type.summarise (c.orderIn parts) (c.averaging rows) s (rows.filterMap c.cell) =
      c.type.summarise .unknown .fromFirst s (rows.filterMap c.cell) := by
  have hsub : (rows.filterMap c.cell).Sublist c.values := by
    rw [← values_pick]
    exact sublist_values_pick hrows
  have hextremes (h : c.RanksAlike parts) :
      c.type.least (c.orderIn parts) (rows.filterMap c.cell) =
          c.type.least .unknown (rows.filterMap c.cell) ∧
        c.type.greatest (c.orderIn parts) (rows.filterMap c.cell) =
          c.type.greatest .unknown (rows.filterMap c.cell) := by
    by_cases hfloating : c.type.isFloating = true
    · by_cases ho : c.orderIn parts = .unknown
      · rw [ho]
        exact ⟨rfl, rfl⟩
      · exact CellType.extremes_eq hfloating (h.areComparable hfloating ho)
          (c.holds_orderIn parts) hsub
    · simp [CellType.least, CellType.greatest, hfloating]
  cases s with
  | least => exact (hextremes h).1
  | greatest => exact (hextremes h).2
  | total => rfl
  | mean =>
    have hvalues : ∀ x ∈ rows.filterMap c.cell, some x ∈ c.cells :=
      fun x hx => List.reduceOption_mem_iff.mp (hsub.subset hx)
    -- Only the mean of a frame's only row and the means of a column with missing cells are special.
    simp only [CellType.summarise, averaging]
    split_ifs with hone hzero
    · have hlength : (rows.filterMap c.cell).length ≤ 1 := by
        have hle := hsub.length_le.trans (List.reduceOption_length_le c.cells)
        rwa [hone] at hle
      exact CellType.mean_alone hlength fun x hx => h.isOwnMean x (hvalues x hx)
    · have hnone : none ∈ c.cells := by simpa using hzero.2
      exact CellType.mean_fromZero fun x hx => h.not_isNegZero hnone x (hvalues x hx)
    · rfl

/-- Some rows of a local column are a local column. -/
theorem IsLocal.pick (h : c.IsLocal parts s) (hrows : rows.Sublist (List.range c.cells.length))
    (hparts : parts = [] → parts' = []) : (c.pick rows).IsLocal parts' s := by
  have hranks (h : c.RanksAlike parts) : (c.pick rows).RanksAlike parts' := by
    intro hfloating hne
    exact (h hfloating (mt hparts hne)).of_subset (sublist_values_pick hrows).subset
  cases s with
  | least => exact hranks h
  | greatest => exact hranks h
  | total => trivial
  | mean => exact h.of_subset (sublist_pick hrows).subset

/-- What is chosen from groups of rows is found in the column. -/
theorem map_choice_subset {choose : List c.type.Value → Option c.type.Value} (h : IsChoice choose)
    {groups : List (List ℕ)}
    (hgroups : ∀ rows ∈ groups, rows ≠ [] ∧ rows.Sublist (List.range c.cells.length)) :
    (groups.map fun rows => choose (rows.filterMap c.cell)) ⊆ c.cells := by
  intro cell hcell
  obtain ⟨rows, hrows, rfl⟩ := List.mem_map.mp hcell
  obtain ⟨hne, hsub⟩ := hgroups rows hrows
  have hmem : choose (rows.map c.cell).reduceOption ∈ rows.map c.cell :=
    h.mem_cells (by simpa using hne)
  rw [List.reduceOption, List.filterMap_map] at hmem
  exact (sublist_pick hsub).subset hmem

end Column

end Meteogram
