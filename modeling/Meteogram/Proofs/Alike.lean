import Meteogram.Proofs.Chart.Assembly
import Meteogram.Table

/-!
# Fields without a value

A record may carry a field without a value or not carry it at all. Records that differ in nothing
else are alike: everything that is made of them reads times and values and is the same for both. The
one question that tells them apart is whether a field is known at all, so an alignment has to be
asked for fields that both know.

Alignments of records that are alike are followed step by step: both walks lay slots that say the
same, or stop for the same reason.
-/
namespace Meteogram

/-- Two outcomes that are the same error or results that are related. -/
inductive SameOutcome {ε α : Type} (R : α → α → Prop) : Except ε α → Except ε α → Prop
  | error (e : ε) : SameOutcome R (.error e) (.error e)
  | ok {a b : α} (h : R a b) : SameOutcome R (.ok a) (.ok b)

namespace SameOutcome

variable {ε α β : Type} {R : α → α → Prop} {x y : Except ε α}

theorem eq (h : SameOutcome Eq x y) : x = y := by
  cases h with
  | error e => rfl
  | ok h => rw [h]

theorem bind {S : β → β → Prop} {f g : α → Except ε β} (h : SameOutcome R x y)
    (hfg : ∀ a b, R a b → SameOutcome S (f a) (g b)) : SameOutcome S (x >>= f) (y >>= g) := by
  cases h with
  | error e => exact .error e
  | ok h => exact hfg _ _ h

end SameOutcome

/-- Two records with the same time and the same values: what one of them carries without a value the
other may lack. -/
structure Record.Alike (a b : Record) : Prop where
  time_eq : a.time = b.time
  get_eq : ∀ field, a.get field = b.get field

/-- Two datasets with the same envelope whose records are alike, one after the other. -/
structure Dataset.Alike (d e : Dataset) : Prop where
  lower_eq : d.lower = e.lower
  upper_eq : d.upper = e.upper
  unit_eq : d.unit = e.unit
  data : List.Forall₂ Record.Alike d.data e.data

section

variable {a b : Record} {as bs : List Record}

theorem Record.Alike.set (h : a.Alike b) (name : String) (value : Option Float) :
    (a.set name value).Alike (b.set name value) where
  time_eq := h.time_eq
  get_eq field := by simp only [Record.get_set, h.get_eq]

theorem totalsFrom_of_alike (h : List.Forall₂ Record.Alike as bs) (field : String)
    (total : Float) : totalsFrom field total as = totalsFrom field total bs := by
  induction h generalizing total with
  | nil => rfl
  | cons hab _ ih => rw [totalsFrom, totalsFrom, hab.get_eq, ih]

theorem runningTotal_of_alike (h : List.Forall₂ Record.Alike as bs) (field : String) :
    runningTotal as field = runningTotal bs field := totalsFrom_of_alike h field 0

theorem annotateRunningTotal_of_alike (h : List.Forall₂ Record.Alike as bs)
    (field output : String) :
    List.Forall₂ Record.Alike (annotateRunningTotal as field output)
      (annotateRunningTotal bs field output) := by
  rw [annotateRunningTotal, annotateRunningTotal, runningTotal_of_alike h]
  generalize runningTotal bs field = totals
  induction h generalizing totals with
  | nil => exact .nil
  | cons hab _ ih =>
    cases totals with
    | nil => exact .nil
    | cons total totals => exact .cons (hab.set output (some total)) (ih totals)

theorem Table.rowsFrom_of_alike (h : List.Forall₂ Record.Alike as bs) (period : Period)
    (columns : List TableColumn) (offset : Offset) (position : ℕ) :
    rowsFrom period columns offset position as = rowsFrom period columns offset position bs := by
  induction h generalizing position with
  | nil => rfl
  | cons hab _ ih => simp only [rowsFrom, hab.time_eq, hab.get_eq, ih]

end

/-- Two slots of one bucket that say the same. -/
structure Slot.Alike {κ : Type} (a b : Slot κ) : Prop where
  bucket_eq : a.bucket = b.bucket
  get_eq : ∀ field, a.record.bind (·.get field) = b.record.bind (·.get field)

/-- Two walks that stand in the same place and have laid slots that say the same. -/
structure Walk.Alike {κ : Type} (v w : Walk κ) : Prop where
  slots : List.Forall₂ Slot.Alike v.slots w.slots
  cursor_eq : v.cursor = w.cursor
  previous_eq : v.previous = w.previous

theorem forall₂_alike_self {κ : Type} (slots : List (Slot κ)) :
    List.Forall₂ Slot.Alike slots slots :=
  List.forall₂_same.mpr fun _ _ => ⟨rfl, fun _ => rfl⟩

theorem Walk.Alike.overwrite {κ : Type} {v w : Walk κ} {a b : Record} (h : v.Alike w)
    (hab : a.Alike b) : (v.overwrite a).Alike (w.overwrite b) := by
  obtain ⟨slots, cursor, previous⟩ := v
  obtain ⟨slots', cursor', previous'⟩ := w
  obtain ⟨hslots, hcursor, hprevious⟩ := h
  cases hslots with
  | nil => exact ⟨.nil, hcursor, hprevious⟩
  | cons hslot hrest =>
    exact ⟨.cons ⟨hslot.bucket_eq, hab.get_eq⟩ hrest, hcursor, hprevious⟩

namespace Scale

variable {κ : Type} {s : Scale κ} {v w : Walk κ} {a b : Record} {as bs : List Record}

theorem fill_of_alike (h : v.Alike w) (hab : a.Alike b) (k : κ) :
    (s.fill v k a).Alike (s.fill w k b) where
  slots := by
    rw [fill, fill, h.cursor_eq]
    exact .cons ⟨rfl, hab.get_eq⟩ (List.rel_append (forall₂_alike_self _) h.slots)
  cursor_eq := rfl
  previous_eq := rfl

/-- One step: both records are laid, in the same way, or both are refused. -/
theorem lay_of_alike (h : v.Alike w) (hab : a.Alike b) (policy : DuplicatePolicy) (position : ℕ)
    (k : κ) :
    SameOutcome Walk.Alike (s.lay policy position v k a) (s.lay policy position w k b) := by
  unfold lay
  rw [h.previous_eq]
  cases w.previous with
  | none => exact .ok (fill_of_alike h hab k)
  | some p =>
    dsimp only
    split_ifs with hearlier hlater
    · exact .error _
    · exact .ok (fill_of_alike h hab k)
    · cases policy with
      | reject => exact .error _
      | lastWins => exact .ok (h.overwrite hab)

theorem layFrom_of_alike (hrecords : List.Forall₂ Record.Alike as bs) (policy : DuplicatePolicy)
    (position : ℕ) (h : v.Alike w) (keys : List κ) :
    SameOutcome Walk.Alike (s.layFrom policy position v (keys.zip as))
      (s.layFrom policy position w (keys.zip bs)) := by
  induction hrecords generalizing position v w keys with
  | nil =>
    rw [List.zip_nil_right]
    exact .ok h
  | cons hab _ ih =>
    cases keys with
    | nil => exact .ok h
    | cons k keys =>
      exact (lay_of_alike h hab policy position k).bind fun v' w' h' => ih (position + 1) h' keys

theorem bucketsFrom_of_alike (h : List.Forall₂ Record.Alike as bs) (position : ℕ) :
    s.bucketsFrom position as = s.bucketsFrom position bs := by
  induction h generalizing position with
  | nil => rfl
  | cons hab _ ih => simp only [bucketsFrom, hab.time_eq, ih]

theorem finish_of_alike (h : v.Alike w) (last : κ) :
    List.Forall₂ Slot.Alike (s.finish v last) (s.finish w last) := by
  rw [finish, finish, h.cursor_eq]
  exact List.rel_append (List.rel_reverse h.slots) (forall₂_alike_self _)

end Scale

theorem AlignedFrame.ofSlots_of_alike {κ : Type} {slots slots' : List (Slot κ)}
    (h : List.Forall₂ Slot.Alike slots slots') (label : κ → Label) (fields : List String) :
    ofSlots label fields slots = ofSlots label fields slots' := by
  have hmap {α : Type} (f : Slot κ → α) (hf : ∀ a b, a.Alike b → f a = f b) :
      slots.map f = slots'.map f := by
    rw [← List.forall₂_eq_eq_eq, List.forall₂_map_left_iff, List.forall₂_map_right_iff]
    exact h.imp hf
  simp only [ofSlots]
  rw [hmap _ fun a b hab => congrArg label hab.bucket_eq]
  simp only [hmap _ fun a b hab => hab.get_eq _]

/-- Records that are alike are aligned alike, if they know the same of the fields. -/
theorem Scale.align_of_alike {κ : Type} {s : Scale κ} {as bs : List Record}
    (h : List.Forall₂ Record.Alike as bs) (policy : DuplicatePolicy) {fields : List String}
    (hknown : ∀ f ∈ fields, IsKnown as f ↔ IsKnown bs f) :
    s.align policy as fields = s.align policy bs fields := by
  by_cases hempty : as = []
  · subst hempty
    cases h
    rfl
  have hempty' : bs ≠ [] := by
    rintro rfl
    cases h
    exact hempty rfl
  have hunknown : fields.find? (fun f => !as.any (·.has f)) =
      fields.find? (fun f => !bs.any (·.has f)) := by
    refine List.find?_congr fun f hf => ?_
    have hiff : as.any (·.has f) = bs.any (·.has f) := by
      rw [Bool.eq_iff_iff, List.any_eq_true, List.any_eq_true]
      exact hknown f hf
    rw [hiff]
  cases hfind : fields.find? (fun f => !bs.any (·.has f)) with
  | some f => rw [align_of_unknown hempty (hunknown.trans hfind), align_of_unknown hempty' hfind]
  | none =>
    rw [align_of_known hempty (hunknown.trans hfind), align_of_known hempty' hfind,
      bucketsFrom_of_alike h]
    cases s.bucketsFrom 0 bs with
    | error e => rfl
    | ok keys =>
      cases keys with
      | nil => rfl
      | cons first rest =>
        have hstart (start : κ) : (Walk.fromStart start).Alike (.fromStart start) :=
          ⟨.nil, rfl, rfl⟩
        exact ((layFrom_of_alike h policy 0 (hstart _) (first :: rest)).bind fun v w hvw =>
          .ok (AlignedFrame.ofSlots_of_alike (finish_of_alike hvw _) s.label fields)).eq

theorem Aligner.alignFields_of_alike (a : Aligner) {as bs : List Record}
    (h : List.Forall₂ Record.Alike as bs) {fields : List String}
    (hknown : ∀ f ∈ fields, IsKnown as f ↔ IsKnown bs f) :
    a.alignFields as fields = a.alignFields bs fields := by
  unfold alignFields
  cases a.axis <;> simp only [Scale.align_of_alike h _ hknown]

namespace ChartSpec

variable {as bs : List Record}

theorem annotated_of_alike (h : List.Forall₂ Record.Alike as bs) (spec : ChartSpec) :
    List.Forall₂ Record.Alike (spec.annotated as) (spec.annotated bs) := by
  unfold annotated
  cases spec.runningTotal with
  | none => exact h
  | some total => exact annotateRunningTotal_of_alike h total.source total.output

/-- The field that a chart computes itself is known to all records there are. -/
theorem isKnown_annotated_of_alike (h : List.Forall₂ Record.Alike as bs) (spec : ChartSpec)
    {field : String}
    (hknown : (∀ total, spec.runningTotal = some total → field ≠ total.output) →
      (IsKnown as field ↔ IsKnown bs field)) :
    IsKnown (spec.annotated as) field ↔ IsKnown (spec.annotated bs) field := by
  unfold annotated
  cases hspec : spec.runningTotal with
  | none => exact hknown (by simp [hspec])
  | some total =>
    have hne : as ≠ [] ↔ bs ≠ [] := by
      rw [← List.length_pos_iff, ← List.length_pos_iff, h.length_eq]
    have hnone {records : List Record} (hr : ¬ records ≠ []) : ¬ IsKnown records field := by
      rw [not_not] at hr
      simp [IsKnown, hr]
    simp only [isKnown_annotateRunningTotal, hne]
    by_cases heq : field = total.output
    · by_cases hbs : bs ≠ []
      · simp [heq, hbs]
      · simp [hbs, hnone hbs, hnone (hne.not.mpr hbs)]
    · rw [hknown (by simpa [hspec] using heq)]

end ChartSpec

/-- Datasets that are alike have the same running totals, tables, alignments and charts; aligned
fields have to be known to both or to neither. -/
theorem Dataset.Alike.results_eq {d e : Dataset} (h : d.Alike e) :
    (∀ field, runningTotal d.data field = runningTotal e.data field) ∧
    (∀ spec offset, Table.ofDataset d spec offset = Table.ofDataset e spec offset) ∧
    (∀ (a : Aligner) (fields : List String),
      (∀ f ∈ fields, IsKnown d.data f ↔ IsKnown e.data f) →
      a.alignFields d.data fields = a.alignFields e.data fields) ∧
    (∀ axis options, Aligner.ofDataset d axis options = Aligner.ofDataset e axis options) ∧
    (∀ (spec : ChartSpec) axis options,
      (∀ f ∈ spec.fields, (∀ total, spec.runningTotal = some total → f ≠ total.output) →
        (IsKnown d.data f ↔ IsKnown e.data f)) →
      ChartConfig.ofDataset spec d axis options = ChartConfig.ofDataset spec e axis options) := by
  have hperiod : d.period = e.period := congrArg (·.getD Period.raw) h.unit_eq
  have haligner (axis : Option Axis) (options : AlignOptions) :
      Aligner.ofDataset d axis options = Aligner.ofDataset e axis options := by
    simp only [Aligner.ofDataset, hperiod, h.lower_eq, h.upper_eq]
  refine ⟨runningTotal_of_alike h.data, ?_, fun a fields => a.alignFields_of_alike h.data,
    haligner, ?_⟩
  · intro spec offset
    simp only [Table.ofDataset, hperiod, Table.rowsFrom_of_alike h.data]
  · intro spec axis options hknown
    have haligned := (Aligner.ofDataset e axis options).alignFields_of_alike
      (spec.annotated_of_alike h.data)
      fun f hf => spec.isKnown_annotated_of_alike h.data (hknown f hf)
    cases hfault : spec.fault? with
    | some fault =>
      rw [ChartConfig.ofDataset_of_fault hfault, ChartConfig.ofDataset_of_fault hfault]
    | none =>
      rw [ChartConfig.ofDataset_of_declared hfault, ChartConfig.ofDataset_of_declared hfault,
        haligner, haligned]

/-- Two days on which rain and temperature change places as the field without a value. -/
theorem results_eq_of_two_days :
    let first := Record.new (.number 0)
    let second := Record.new (.number 90000)
    let d : Dataset := ⟨none, none, some .day,
      [(first.set "rain" (some 1)).set "temp" none, second.set "temp" (some 2)]⟩
    let e : Dataset := ⟨none, none, some .day,
      [first.set "rain" (some 1), (second.set "temp" (some 2)).set "rain" none]⟩
    let line (field : String) : SeriesSpec := ⟨.line, field, field, "y", "blue", none, false⟩
    let spec : ChartSpec := ⟨"Days", false, [line "temp", line "total"],
      [⟨"y", .left, "Rain", "mm"⟩], some ⟨"rain", "total"⟩⟩
    d ≠ e ∧ runningTotal d.data "rain" = runningTotal e.data "rain" ∧
      Table.ofDataset d TableKind.aggregate.spec default =
        Table.ofDataset e TableKind.aggregate.spec default ∧
      ChartConfig.ofDataset spec d none default = ChartConfig.ofDataset spec e none default ∧
      ∃ frame, (Aligner.ofDataset d none default).alignFields d.data ["rain", "temp"] = .ok frame ∧
        (Aligner.ofDataset e none default).alignFields e.data ["rain", "temp"] = .ok frame ∧
        frame.columns = [("rain", [some 1, none]), ("temp", [none, some 2])] := by
  intro first second d e line spec
  have hget (r : Record) (name : String) (hr : r.get name = none) (field : String) :
      (r.set name none).get field = r.get field := by
    rw [Record.get_set]
    split_ifs with h
    · rw [h, hr]
    · rfl
  have halike : d.Alike e := by
    refine ⟨rfl, rfl, rfl, .cons ⟨rfl, ?_⟩ (.cons ⟨rfl, ?_⟩ .nil)⟩
    · exact hget _ _ (by decide)
    · exact fun field => (hget _ _ (by decide) field).symm
  have hknown : ∀ f ∈ ["rain", "temp"], IsKnown d.data f ↔ IsKnown e.data f := by
    simp [IsKnown, d, e]
  have hshown : ∀ f ∈ spec.fields, (∀ total, spec.runningTotal = some total → f ≠ total.output) →
      (IsKnown d.data f ↔ IsKnown e.data f) := by
    have hfields : spec.fields = ["temp", "total"] := by decide
    rw [hfields]
    simp [IsKnown, d, e, spec]
  obtain ⟨htotal, htable, halign, haligner, hchart⟩ := halike.results_eq
  refine ⟨by decide +kernel, htotal _, htable _ _, hchart spec _ _ hshown, ?_⟩
  obtain ⟨frame, hframe, hcolumns⟩ : ∃ frame,
      (Aligner.ofDataset d none default).alignFields d.data ["rain", "temp"] = .ok frame ∧
        frame.columns = [("rain", [some 1, none]), ("temp", [none, some 2])] := ⟨_, rfl, rfl⟩
  refine ⟨frame, hframe, ?_, hcolumns⟩
  rw [← haligner, ← halign _ _ hknown, hframe]

end Meteogram
