import Meteogram.Proofs.Align.Columns
import Meteogram.Proofs.Align.Faults

/-!
# Fields that are aligned together

An alignment asks of every field whether some record carries it, and then goes by the times of the
records alone. Its labels, or what goes wrong with the times, are therefore the same for all known
fields, and several fields aligned together fare as each of them does on its own: a field stops the
others only by being unknown.
-/
namespace Meteogram

/-- Which labels an alignment has, or for what it fails, is the same for all known fields. -/
theorem Scale.map_labels_align {κ : Type} {s : Scale κ} {policy : DuplicatePolicy}
    {records : List Record} {fields fields' : List String}
    (hf : records ≠ [] → ∀ f ∈ fields, IsKnown records f)
    (hf' : records ≠ [] → ∀ f ∈ fields', IsKnown records f) :
    (s.align policy records fields).map (·.labels) =
      (s.align policy records fields').map (·.labels) := by
  by_cases hr : records = []
  · rw [hr, align_nil, align_nil]
  · rw [align_of_known hr (find?_unknown_eq_none.mpr (hf hr)),
      align_of_known hr (find?_unknown_eq_none.mpr (hf' hr))]
    cases s.bucketsFrom 0 records with
    | error e => rfl
    | ok buckets =>
      cases buckets with
      | nil => rfl
      | cons first rest =>
        simp only [Except.ok_bind]
        cases s.layFrom policy 0 (.fromStart (s.bounds first (rest.getLastD first)).1)
            ((first :: rest).zip records) with
        | error e => rfl
        | ok w => rfl

namespace Aligner

variable {a : Aligner} {records : List Record} {fields : List String} {f g : String}
  {e : AlignError}

theorem align_eq_error_iff :
    a.align records f = .error e ↔ a.alignFields records [f] = .error e := by
  unfold align
  cases a.alignFields records [f] <;> simp [pure, Except.pure]

theorem axisFault?_ne_unknownField : a.axisFault? ≠ some (.unknownField f) := by
  intro h
  rcases axisFault?_cases h with h | ⟨text, h⟩ | ⟨text, h⟩ <;> cases h

theorem timeError_ne_unknownField (position : ℕ) (time : RecordTime) :
    a.timeError position time ≠ .unknownField f := by
  unfold timeError
  split
  · rcases a.lack_cases time (.invalidTime position) with h | h <;> simp [h]
  · split <;> simp

/-- A field is found to be unknown where nothing else is wrong with the axis and the fields before
it, and there are records. -/
theorem alignFields_eq_unknownField_iff :
    a.alignFields records fields = .error (.unknownField f) ↔
      (a.axisFault? = none ∧ records ≠ []) ∧ ∃ i, fields[i]? = some f ∧
        (∀ g ∈ fields.take i, IsKnown records g) ∧ ¬ IsKnown records f := by
  rw [alignFields_eq_error_iff_fault, or_iff_right axisFault?_ne_unknownField, and_assoc]
  refine and_congr_right fun _ => ⟨?_, ?_⟩
  · intro h
    generalize he : AlignError.unknownField f = e at h
    cases h with
    | noRecord => cases he
    | @unknownField hr i f' hi hbefore hnot =>
      cases he
      exact ⟨hr, i, hi, hbefore, hnot⟩
    | noBucket => exact absurd he.symm (timeError_ne_unknownField _ _)
    | misplaced hf hb hp hk hbefore h => cases h <;> cases he
  · rintro ⟨hr, i, hi, hbefore, hnot⟩
    exact .unknownField hr hi hbefore hnot

theorem align_eq_unknownField_iff :
    a.align records f = .error (.unknownField g) ↔
      (a.axisFault? = none ∧ records ≠ []) ∧ g = f ∧ ¬ IsKnown records f := by
  rw [align_eq_error_iff, alignFields_eq_unknownField_iff]
  constructor
  · rintro ⟨hplace, i, hi, -, hnot⟩
    have hg : g = f := by simpa using List.mem_of_getElem? hi
    exact ⟨hplace, hg, hg ▸ hnot⟩
  · rintro ⟨hplace, rfl, hnot⟩
    exact ⟨hplace, 0, rfl, by simp, hnot⟩

/-- The first unknown field is what several fields fail for. -/
theorem alignFields_of_first_unknown {i : ℕ} (hi : fields[i]? = some f)
    (h : a.align records f = .error (.unknownField g))
    (hbefore : ∀ f' ∈ fields.take i, ∀ g', a.align records f' ≠ .error (.unknownField g')) :
    a.alignFields records fields = .error (.unknownField f) := by
  obtain ⟨hplace, -, hnot⟩ := align_eq_unknownField_iff.mp h
  refine alignFields_eq_unknownField_iff.mpr ⟨hplace, i, hi, fun f' hf' => ?_, hnot⟩
  by_contra hunknown
  exact hbefore f' hf' f' (align_eq_unknownField_iff.mpr ⟨hplace, rfl, hunknown⟩)

/-- Where no field is unknown, several fields fail as each of them does. -/
theorem alignFields_eq_error_iff_align
    (h : ∀ f ∈ fields, ∀ g, a.align records f ≠ .error (.unknownField g)) (hf : f ∈ fields) :
    a.alignFields records fields = .error e ↔ a.align records f = .error e := by
  rw [align_eq_error_iff]
  cases hfault : a.axisFault? with
  | some e' => rw [alignFields_of_axisFault hfault, alignFields_of_axisFault hfault]
  | none =>
    have hknown : records ≠ [] → ∀ f ∈ fields, IsKnown records f := by
      intro hr f hf
      by_contra hunknown
      exact h f hf f (align_eq_unknownField_iff.mpr ⟨⟨hfault, hr⟩, rfl, hunknown⟩)
    obtain ⟨κ, _, s, hs⟩ := exists_laysOn hfault
    rw [hs.alignFields_eq, hs.alignFields_eq]
    refine Except.eq_error_iff_of_map_eq (Scale.map_labels_align hknown fun hr => ?_)
    simpa using hknown hr f hf

/-- What several fields fail for together, read off what each of them fails for on its own. -/
inductive FieldFault (a : Aligner) (records : List Record) (fields : List String) :
    AlignError → Prop
  | unknown {i : ℕ} {f : String} (hi : fields[i]? = some f)
    (h : a.align records f = .error (.unknownField f))
    (hbefore : ∀ f' ∈ fields.take i, ∀ g, a.align records f' ≠ .error (.unknownField g)) :
    FieldFault a records fields (.unknownField f)
  | common {e : AlignError}
    (hknown : ∀ f ∈ fields, ∀ g, a.align records f ≠ .error (.unknownField g))
    (h : ∀ f ∈ fields, a.align records f = .error e) : FieldFault a records fields e

theorem alignFields_eq_error_iff_fieldFault (hfields : fields ≠ []) :
    a.alignFields records fields = .error e ↔ a.FieldFault records fields e := by
  constructor
  · intro h
    by_cases hknown : ∀ f ∈ fields, ∀ g, a.align records f ≠ .error (.unknownField g)
    · exact .common hknown fun f hf => (alignFields_eq_error_iff_align hknown hf).mp h
    · obtain ⟨i, f, hi, hunknown, hbefore⟩ := exists_first_not hknown
      simp only [not_forall, ne_eq, not_not] at hunknown
      obtain ⟨g, hg⟩ := hunknown
      obtain rfl : g = f := (align_eq_unknownField_iff.mp hg).2.1
      rw [alignFields_of_first_unknown hi hg hbefore, Except.error.injEq] at h
      exact h ▸ .unknown hi hg hbefore
  · rintro (⟨hi, hunknown, hbefore⟩ | ⟨hknown, hall⟩)
    · exact alignFields_of_first_unknown hi hunknown hbefore
    · obtain ⟨f, hf⟩ := List.exists_mem_of_ne_nil _ hfields
      exact (alignFields_eq_error_iff_align hknown hf).mpr (hall f hf)

theorem FieldFault.exists_error (h : a.FieldFault records fields e) (hfields : fields ≠ []) :
    ∃ f ∈ fields, ∃ e', a.align records f = .error e' := by
  cases h with
  | unknown hi hunknown _ => exact ⟨_, List.mem_of_getElem? hi, _, hunknown⟩
  | common _ hall =>
    obtain ⟨f, hf⟩ := List.exists_mem_of_ne_nil _ hfields
    exact ⟨f, hf, _, hall f hf⟩

/-- A field of an alignment is aligned on its own as the frame shows it. -/
theorem exists_series_of_alignFields {frame : AlignedFrame}
    (h : a.alignFields records fields = .ok frame) (hf : f ∈ fields) :
    ∃ series, a.align records f = .ok series ∧ series.labels = frame.labels ∧
      frame.series? f = some series := by
  refine ⟨_, align_of_alignFields h hf, rfl, ?_⟩
  rw [AlignedFrame.series?, column?_of_alignFields h hf, Option.map_some]

/-- Several fields are aligned together exactly if each of them is aligned on its own, with the same
labels and the same values. Otherwise the first field that is unknown on its own decides, or else all
fields fail for the same reason. -/
theorem alignFields_field_by_field (hfields : fields ≠ []) :
    ((∃ frame, a.alignFields records fields = .ok frame) ↔
      ∀ f ∈ fields, ∃ series, a.align records f = .ok series) ∧
    (∀ frame, a.alignFields records fields = .ok frame → ∀ f ∈ fields, ∃ series,
      a.align records f = .ok series ∧ series.labels = frame.labels ∧
        frame.series? f = some series) ∧
    ∀ e, a.alignFields records fields = .error e ↔ a.FieldFault records fields e := by
  refine ⟨⟨?_, ?_⟩, fun _ h _ hf => exists_series_of_alignFields h hf,
    fun _ => alignFields_eq_error_iff_fieldFault hfields⟩
  · rintro ⟨frame, h⟩ f hf
    obtain ⟨series, hok, -⟩ := exists_series_of_alignFields h hf
    exact ⟨series, hok⟩
  · intro hall
    cases h : a.alignFields records fields with
    | ok frame => exact ⟨frame, rfl⟩
    | error e =>
      have hfault := (alignFields_eq_error_iff_fieldFault hfields).mp h
      obtain ⟨f, hf, e', he'⟩ := hfault.exists_error hfields
      obtain ⟨series, hok⟩ := hall f hf
      rw [hok] at he'
      cases he'

/-- Three days without the second one. The temperature is asked for twice; snow is not observed. -/
theorem alignFields_field_by_field_of_three_days :
    let a : Aligner := ⟨.calendar .day, default, none, none⟩
    let records := [((Record.new (.number 0)).set "rain" (some 1)).set "temp" none,
      (Record.new (.number 172800)).set "temp" (some 2)]
    (∃ frame series, a.alignFields records ["temp", "rain", "temp"] = .ok frame ∧
      a.align records "temp" = .ok series ∧ series.values = [none, none, some 2] ∧
        series.labels = frame.labels ∧ frame.series? "temp" = some series) ∧
    a.alignFields records ["temp", "snow", "rain"] = .error (.unknownField "snow") := by
  intro a records
  obtain ⟨frame, h⟩ : ∃ frame, a.alignFields records ["temp", "rain", "temp"] = .ok frame :=
    ⟨_, rfl⟩
  have hseries := (alignFields_field_by_field (List.cons_ne_nil _ _)).2.1 frame h "temp"
    List.mem_cons_self
  obtain ⟨series, hok, hlabels, hcolumn⟩ := hseries
  refine ⟨⟨frame, series, h, hok, ?_, hlabels, hcolumn⟩, ?_⟩
  · cases hok
    rfl
  · refine ((alignFields_field_by_field (List.cons_ne_nil _ _)).2.2 _).mpr
      (.unknown (i := 1) rfl rfl ?_)
    intro f' hf' g hg
    obtain rfl : f' = "temp" := by simpa using hf'
    cases hg

end Aligner

end Meteogram
