import Mathlib.Tactic
import Meteogram.Proofs.Archive.Aggregate
import Meteogram.Proofs.Archive.LocalDay
import Meteogram.Proofs.Archive.Selection

/-!
# Days of windows

A window is open below and closed above, and a row belongs to the day of the second before its stamp.
So a window between midnights selects the rows of the days between them, and windows that follow one
another share no row and leave none out. The rows of an aggregate are selected by their days.
-/
namespace Meteogram

/-- Whether a day is known, is not before the first one and is before the one to stop at. -/
def DayKey.isIn (first stop : ℤ) (key : DayKey) : Bool :=
  key.any fun day => first ≤ day.toInt && day.toInt < stop

theorem DayKey.isIn_eq_or {first middle stop : ℤ} (hfirst : first ≤ middle) (hstop : middle ≤ stop)
    (key : DayKey) : isIn first stop key = (isIn first middle key || isIn middle stop key) := by
  cases key with
  | none => rfl
  | some day =>
    simp only [isIn, Option.any_some, ← Bool.decide_and, ← Bool.decide_or, decide_eq_decide]
    omega

/-- What is not before a day of later ones is none of the earlier days. -/
theorem DayKey.isIn_of_le {a b : DayKey} (hab : a = b ∨ before a b = true) {first middle stop : ℤ}
    (ha : isIn middle stop a = true) : isIn first middle b = false := by
  cases a with
  | none => cases ha
  | some day =>
    cases b with
    | none => rfl
    | some day' =>
      have hle : day.toInt ≤ day'.toInt := by
        rcases hab with hab | hab
        · cases hab
          exact le_rfl
        · simp only [before, decide_eq_true_iff, Int32.lt_iff_toInt_lt] at hab
          exact hab.le
      simp only [isIn, Option.any_some, ← Bool.decide_and, decide_eq_true_iff,
        decide_eq_false_iff_not] at ha ⊢
      omega

/-- Whether a cell is a date, not before the first day and before the one to stop at. -/
def CellType.isDayIn (first stop : ℤ) : (type : CellType) → type.Value → Bool
  | date, day => DayKey.isIn first stop (some day)
  | _, _ => false

namespace Frame

/-- The rows of an aggregate whose day is not before the first one and before the one to stop at. -/
def dayRows (g : Frame) (first stop : ℤ) : List ℕ :=
  match g.column? timeName with
  | some time => rowsWhere time (time.type.isDayIn first stop)
  | none => []

/-- The part of an aggregate with these days. -/
def keepDays (g : Frame) (first stop : ℤ) : Frame := g.keep (g.dayRows first stop)

variable {f g : Frame} {stamps : List (Option Int64)} {lower middle upper : Int64}
  {offset : Offset}

/-! ### Windows as selections of days -/

theorem HasStamps.window_eq (h : f.HasStamps stamps) (lower upper : Int64) :
    f.window lower upper = .ok (f.keep (rowsWith (inWindow lower upper) stamps)) := by
  have hrows : rowsWhere ⟨timeName, .int64, stamps⟩ (fun n => insideWindow lower upper n.toInt) =
      rowsWith (inWindow lower upper) stamps := by
    refine List.filter_congr fun row _ => ?_
    change (stamps[row]?).join.any _ = _
    cases stamps[row]? <;> rfl
  rw [← hrows, Frame.window, h.column_eq]
  rfl

theorem HasStamps.length_keys (h : f.HasStamps stamps) :
    (stamps.map (·.bind offset.dayOf?)).length = f.height :=
  (List.length_map _).trans (f.height_eq _ (mem_of_column? h))

/-- Two windows that follow one another hold every row of the window over both, once. -/
theorem rowsWith_inWindow_perm (stamps : List (Option Int64)) (hlower : lower.toInt ≤ middle.toInt)
    (hupper : middle.toInt ≤ upper.toInt) :
    (rowsWith (inWindow lower upper) stamps).Perm
      (rowsWith (inWindow lower middle) stamps ++ rowsWith (inWindow middle upper) stamps) := by
  apply rowsWith_perm
  · intro stamp
    rw [Bool.eq_iff_iff, Bool.or_eq_true, inWindow_iff, inWindow_iff, inWindow_iff]
    constructor
    · rintro ⟨n, rfl, hl, hu⟩
      by_cases hm : n.toInt ≤ middle.toInt
      · exact .inl ⟨n, rfl, hl, hm⟩
      · exact .inr ⟨n, rfl, by omega, hu⟩
    · rintro (⟨n, rfl, hl, hm⟩ | ⟨n, rfl, hm, hu⟩)
      · exact ⟨n, rfl, hl, by omega⟩
      · exact ⟨n, rfl, by omega, hu⟩
  · intro stamp hbelow
    obtain ⟨n, rfl, -, hm⟩ := inWindow_iff.mp hbelow
    rw [← Bool.not_eq_true, inWindow_iff]
    rintro ⟨n', hn, hm', -⟩
    cases hn
    omega

/-- A stamp is in a window between midnights if its day is one of those between them. -/
theorem inWindow_eq_isIn {first stop : Instant} (hlower : offset.instantOf? lower.toInt = some first)
    (hupper : offset.instantOf? upper.toInt = some stop) (hfirst : Period.day.IsStart first)
    (hstop : Period.day.IsStart stop) {stamp : Option Int64}
    (hinside : ∀ n, stamp = some n → ∃ t, offset.instantOf? (n.toInt - 1) = some t) :
    inWindow lower upper stamp =
      DayKey.isIn first.dayNumber stop.dayNumber (stamp.bind offset.dayOf?) := by
  cases stamp with
  | none => rfl
  | some n =>
    obtain ⟨t, ht⟩ := hinside n rfl
    have hday := (Offset.instantOf?_eq_some.mp ht).1.1
    have hlo := (Offset.instantOf?_eq_some.mp hlower).1.1
    have hhi := (Offset.instantOf?_eq_some.mp hupper).1.1
    have hfirst := hfirst.second_eq
    have hstop := hstop.second_eq
    simp only [Period.startSecond, Period.number] at hfirst hstop
    rw [Option.bind_some, Offset.dayOf?_eq ht]
    simp only [inWindow, insideWindow, DayKey.isIn, Option.any_some, t.toInt_ofInt_dayNumber,
      ← Bool.decide_and, decide_eq_decide]
    -- Open below and closed above at midnights is closed below and open above one second earlier.
    simp only [Instant.dayNumber] at hfirst hstop ⊢
    omega

/-- A window between midnights selects its rows by their days. -/
theorem HasStamps.window_eq_keep (h : f.HasStamps stamps) {first stop : Instant}
    (hlower : offset.instantOf? lower.toInt = some first)
    (hupper : offset.instantOf? upper.toInt = some stop) (hfirst : Period.day.IsStart first)
    (hstop : Period.day.IsStart stop)
    (hinside : ∀ n, some n ∈ stamps → ∃ t, offset.instantOf? (n.toInt - 1) = some t) :
    ∃ g, f.window lower upper = .ok g ∧
      g = f.keep (rowsWith (DayKey.isIn first.dayNumber stop.dayNumber)
        (stamps.map (·.bind offset.dayOf?))) ∧
      g.localDays offset = .ok ((stamps.map (·.bind offset.dayOf?)).filter
        (DayKey.isIn first.dayNumber stop.dayNumber)) := by
  have hstamp : ∀ stamp ∈ stamps, inWindow lower upper stamp =
      DayKey.isIn first.dayNumber stop.dayNumber (stamp.bind offset.dayOf?) := by
    intro stamp hmem
    exact inWindow_eq_isIn hlower hupper hfirst hstop fun n hn => hinside n (hn ▸ hmem)
  obtain ⟨g, hg, hgstamps⟩ := h.window lower upper
  refine ⟨g, hg, ?_, ?_⟩
  · rw [h.window_eq, Except.ok.injEq] at hg
    rw [← hg, rowsWith_map fun stamp hmem => (hstamp stamp hmem).symm]
  · rw [hgstamps.localDays, List.filter_map, List.filter_congr hstamp]
    rfl

/-! ### Days of aggregates -/

theorem dayRows_of_summarise {plan : Plan} {keys : List DayKey}
    (hg : f.summarise plan (Group.ofKeys keys) = .ok g) (first stop : ℤ) :
    g.dayRows first stop = rowsWith (DayKey.isIn first stop) (DayKey.distinct keys) := by
  rw [dayRows, column?_summarise hg, ← Group.map_day_ofKeys]
  refine List.filter_congr fun row _ => ?_
  change (((Group.ofKeys keys).map (·.day))[row]?).join.any (fun day => _) = _
  cases ((Group.ofKeys keys).map (·.day))[row]? with
  | none => rfl
  | some key => cases key <;> rfl

theorem dayRows_append {plan : Plan} {keys : List DayKey}
    (hg : f.summarise plan (Group.ofKeys keys) = .ok g) {first middle stop : ℤ}
    (hfirst : first ≤ middle) (hstop : middle ≤ stop) :
    g.dayRows first stop = g.dayRows first middle ++ g.dayRows middle stop := by
  rw [dayRows_of_summarise hg, dayRows_of_summarise hg, dayRows_of_summarise hg]
  refine rowsWith_append (DayKey.isIn_eq_or hfirst hstop) ?_ ?_
  · exact fun key => DayKey.isIn_of_le (.inl rfl)
  · exact (DayKey.pairwise_distinct keys).imp fun hab => DayKey.isIn_of_le (.inr hab)

/-- Selecting days before a summary is selecting them after it. -/
theorem summarise_keepDays {plan : Plan} {keys : List DayKey} (h : f.IsLocal plan)
    (hlength : keys.length = f.height) (first stop : ℤ) :
    (f.keep (rowsWith (DayKey.isIn first stop) keys)).summarise plan
        (Group.ofKeys (keys.filter (DayKey.isIn first stop))) =
      (f.summarise plan (Group.ofKeys keys)).map (·.keepDays first stop) := by
  rw [summarise_keep h hlength]
  cases hg : f.summarise plan (Group.ofKeys keys) with
  | error e => rfl
  | ok g =>
    change Except.ok (g.keep _) = Except.ok (g.keep _)
    rw [dayRows_of_summarise hg]

end Frame

end Meteogram
