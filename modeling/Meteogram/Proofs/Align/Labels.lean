import Mathlib.Data.List.Sort
import Meteogram.Proofs.Align.Spans
import Meteogram.Proofs.IndexRange

/-!
# Labels of an aligned frame

The labels of a frame are its axis. On a stepped calendar these are all buckets from the start to
the stop, on a range of slots the slots of the range, and on the raw calendar, which does not step,
the instants of the records.
-/
namespace Meteogram

section
variable {κ : Type} [LinearOrder κ] {s : Scale κ} {policy : DuplicatePolicy}
  {records : List Record} {fields : List String} {frame : AlignedFrame} {first : κ} {rest : List κ}
  {w : Walk κ}

/-- A walk that has no cursor and no slots but those of records. -/
structure Walk.OnlyRecords (IsKey : κ → Prop) (w : Walk κ) : Prop where
  cursor_eq : w.cursor = none
  isKey : ∀ slot ∈ w.slots, IsKey slot.bucket

namespace Walk

variable {IsKey : κ → Prop}

omit [LinearOrder κ] in
theorem OnlyRecords.fill (hstep : ∀ k, s.step k = none) (h : OnlyRecords IsKey w) {k : κ}
    (hk : IsKey k) (r : Record) : OnlyRecords IsKey (s.fill w k r) where
  cursor_eq := hstep k
  isKey := by
    have hgap : s.gapBefore none k = [] := by
      simp [Scale.gapBefore, Scale.reachFrom, Scale.stepsWhile]
    simpa [Scale.fill, h.cursor_eq, hgap] using ⟨hk, h.isKey⟩

omit [LinearOrder κ] in
theorem OnlyRecords.overwrite (h : OnlyRecords IsKey w) (r : Record) :
    OnlyRecords IsKey (w.overwrite r) := by
  obtain ⟨slots, cursor, previous⟩ := w
  cases slots with
  | nil => exact h
  | cons first earlier => exact ⟨h.cursor_eq, by simpa [Walk.overwrite] using h.isKey⟩

/-- A scale without steps never fills a gap. -/
theorem OnlyRecords.layFrom (hs : s.Lawful) (hstep : ∀ k, s.step k = none) {w' : Walk κ}
    (h : OnlyRecords IsKey w) {position : ℕ} {laid : List (κ × Record)}
    (hlaid : ∀ e ∈ laid, IsKey e.1) (hw : s.layFrom policy position w laid = .ok w') :
    OnlyRecords IsKey w' := by
  induction laid generalizing position w with
  | nil =>
    cases hw
    exact h
  | cons e laid ih =>
    obtain ⟨k, r⟩ := e
    obtain ⟨w₁, hlay, hrest⟩ := Except.bind_eq_ok.mp hw
    have hk : IsKey k := hlaid (k, r) List.mem_cons_self
    have h₁ : OnlyRecords IsKey w₁ := by
      rcases Scale.lay_cases hs hlay with ⟨rfl, -⟩ | ⟨rfl, -, -⟩
      · exact h.fill hstep hk r
      · exact h.overwrite r
    exact ih h₁ (fun e he => hlaid e (List.mem_cons_of_mem _ he)) hrest

end Walk

namespace Scale

omit [LinearOrder κ] in
theorem gapBefore_of_not_before {k c : κ} (h : s.before c k = false) :
    s.gapBefore (some c) k = [] := by
  unfold gapBefore
  cases s.reachFrom (some c) k <;> simp [stepsWhile, h]

/-- The first record fills the start of the axis, so that nothing comes before it. -/
theorem IsAligned.onlyRecords (hs : s.Lawful) (hstep : ∀ k, s.step k = none)
    (h : s.IsAligned policy records fields frame first rest w)
    (hbounds : (s.bounds first (rest.getLastD first)).1 = first) :
    w.OnlyRecords (· ∈ first :: rest) := by
  have hwalk := h.walk_eq
  have hzip := map_fst_zip h.keys_eq
  rw [hbounds] at hwalk
  cases records with
  | nil => cases h.keys_eq
  | cons r rs =>
    obtain ⟨w₁, hlay, hrest⟩ := Except.bind_eq_ok.mp hwalk
    have hgap : s.gapBefore (some first) first = [] := by
      apply gapBefore_of_not_before
      rw [← Bool.not_eq_true, hs.before_iff]
      exact lt_irrefl first
    cases hlay
    have hfirst : (s.fill (.fromStart first) first r).OnlyRecords (· ∈ first :: rest) :=
      ⟨hstep first, by simp [fill, Walk.fromStart, hgap]⟩
    refine hfirst.layFrom hs hstep (fun e he => ?_) hrest
    exact hzip ▸ List.mem_map_of_mem (List.mem_cons_of_mem _ he)

/-- Without steps the labels are those of the buckets of records. -/
theorem IsAligned.labels_of_no_step (hs : s.Lawful) (hstep : ∀ k, s.step k = none)
    (h : s.IsAligned policy records fields frame first rest w)
    (hbounds : (s.bounds first (rest.getLastD first)).1 = first) :
    frame.labels = (first :: rest).dedup.map s.label := by
  have honly := h.onlyRecords hs hstep hbounds
  have hlaid := h.laidOut hs
  have hfinish : ∀ last, s.finish w last = w.slots.reverse := by
    intro last
    simp [finish, gapUpTo, reachFrom, stepsWhile, honly.cursor_eq]
  have hdedup : ((first :: rest).dedup).Pairwise (· < ·) :=
    ((h.sorted.sublist (List.dedup_sublist _)).and (List.nodup_dedup _)).imp
      fun hab => lt_of_le_of_ne hab.1 hab.2
  have hbuckets : (s.finish w (s.bounds first (rest.getLastD first)).2).map (·.bucket) =
      (first :: rest).dedup := by
    refine hlaid.increasing.eq_of_mem_iff hdedup fun k => ?_
    rw [List.mem_dedup]
    constructor
    · intro hk
      obtain ⟨slot, hslot, rfl⟩ := List.mem_map.mp hk
      rw [hfinish, List.mem_reverse] at hslot
      exact honly.isKey slot hslot
    · intro hk
      rw [← map_fst_zip h.keys_eq] at hk
      obtain ⟨e, he, rfl⟩ := List.mem_map.mp hk
      exact hlaid.mem e he
  rw [h.frame_eq, ← hbuckets, List.map_map]
  rfl

end Scale

end

/-- Slots are their own numbers. -/
theorem IndexScale.numbered_toScale (s : IndexScale) :
    s.toScale.Numbered (· < IndexRange.slotLimit) (fun i => (i : ℤ)) where
  lt_iff _ _ := Int.ofNat_lt.symm
  of_step := by
    intro a b ha hstep
    change (if a + 1 < IndexRange.slotLimit then some (a + 1) else none) = some b at hstep
    split_ifs at hstep with hlt
    cases hstep
    exact ⟨hlt, rfl⟩
  of_no_step := by
    intro a b ha hstep hb
    change (if a + 1 < IndexRange.slotLimit then some (a + 1) else none) = none at hstep
    split_ifs at hstep
    omega
  le_reach := by
    intro a b _ _
    change (b : ℤ) - a + 1 ≤ ↑(b - a + 1)
    omega

namespace Aligner

variable {a : Aligner} {records : List Record} {fields : List String} {frame : AlignedFrame}

/-- On a range of slots the labels are its slots. -/
theorem slots_of_alignFields {range : IndexRange} {last : ℕ} (ha : a.axis = .index range)
    (hlast : range.last? = some last) (h : a.alignFields records fields = .ok frame) :
    frame.labels = (List.range' range.first (last + 1 - range.first)).map .index := by
  have hs := laysOn_indexScale ha hlast
  rw [hs.alignFields_eq] at h
  obtain ⟨first, rest, w, hal⟩ := Scale.isAligned_of_align hs.lawful h
  obtain ⟨hle, hlt⟩ := IndexRange.first_le_last hlast
  have hbucket : ∀ k ∈ first :: rest,
      k < IndexRange.slotLimit ∧ range.first ≤ k ∧ k ≤ last := by
    intro k hk
    have hmem : some k ∈ (first :: rest).map some := List.mem_map_of_mem hk
    rw [← hal.keys_eq] at hmem
    obtain ⟨r, -, hr⟩ := List.mem_map.mp hmem
    rw [IndexScale.bucket?_toScale] at hr
    obtain ⟨i, -, hi⟩ := Option.bind_eq_some_iff.mp hr
    split_ifs at hi with hin
    cases hi
    exact ⟨by omega, hin⟩
  obtain ⟨buckets, hlabels, -, hrun⟩ := hal.exists_run (IndexScale.numbered_toScale _) hs.lawful
    rfl (hle.trans_lt hlt) hlt hbucket
  rw [hlabels]
  congr 1
  apply List.map_injective_iff.mpr (Nat.cast_injective : Function.Injective ((↑) : ℕ → ℤ))
  rw [hrun, run, List.range'_eq_map_range, List.map_map]
  rw [show ((last : ℤ) + 1 - range.first).toNat = last + 1 - range.first by omega]
  apply List.map_congr_left
  intro i _
  exact (Nat.cast_add ..).symm

/-- On the raw calendar the labels are the instants of the records. -/
theorem instants_of_alignFields (ha : a.axis = .calendar .raw)
    (h : a.alignFields records fields = .ok frame) :
    ∃ instants : List Instant, records.map (fun r => a.instant? r.time) = instants.map some ∧
      frame.labels = instants.dedup.map .instant := by
  have hs := laysOn_calendarScale ha (axisFault?_of_alignFields h)
  rw [hs.alignFields_eq] at h
  obtain ⟨first, rest, w, hal⟩ := Scale.isAligned_of_align hs.lawful h
  obtain ⟨instants, hinstants, hkeys⟩ := exists_instants hal.keys_eq
  refine ⟨instants, hinstants, ?_⟩
  have hraw : instants.map Period.raw.truncate = instants := List.map_id _
  rw [hal.labels_of_no_step hs.lawful (fun _ => rfl) rfl, hkeys, hraw]
  rfl

/-- A window on the raw calendar has no effect, as long as its bounds are instants. -/
theorem alignFields_of_raw_window (ha : a.axis = .calendar .raw)
    (h : a.alignFields records fields = .ok frame) {lower upper : Option RecordTime}
    (hwindow : ({ a with lower, upper } : Aligner).axisFault? = none) :
    ({ a with lower, upper } : Aligner).alignFields records fields = .ok frame := by
  rw [← h, (laysOn_calendarScale ha (axisFault?_of_alignFields h)).alignFields_eq,
    (laysOn_calendarScale (a := { a with lower, upper }) ha hwindow).alignFields_eq]
  rfl

/-- The labels of a frame are exactly its axis: all buckets from start to stop on a stepped
calendar, the instants of the records on the raw one, whatever the window, and the slots of a
range. -/
theorem labels_of_alignFields (h : a.alignFields records fields = .ok frame) :
    (∀ p, a.axis = .calendar p → p.isStepped = true →
      ∃ start stop, a.start? p records = some start ∧ a.stop? p records = some stop ∧
        p.Spans start stop frame.labels) ∧
    (∀ range, a.axis = .index range → ∃ last, range.last? = some last ∧
      frame.labels = (List.range' range.first (last + 1 - range.first)).map .index) ∧
    (a.axis = .calendar .raw →
      (∃ instants : List Instant, records.map (fun r => a.instant? r.time) = instants.map some ∧
        frame.labels = instants.dedup.map .instant) ∧
      ∀ lower upper, ({ a with lower, upper } : Aligner).axisFault? = none →
        ({ a with lower, upper } : Aligner).alignFields records fields = .ok frame) := by
  refine ⟨?_, ?_, ?_⟩
  · intro p ha hp
    exact spans_of_alignFields ha hp h
  · intro range ha
    have hfault := axisFault?_of_alignFields h
    simp only [axisFault?, ha] at hfault
    cases hlast : range.last? with
    | none => simp [hlast] at hfault
    | some last => exact ⟨last, rfl, slots_of_alignFields ha hlast h⟩
  · intro ha
    exact ⟨instants_of_alignFields ha h, fun _ _ hw => alignFields_of_raw_window ha h hw⟩

/-- One record in February 2024 and a window from the last second of 2023 to the first of May. -/
theorem labels_of_months_from_december :
    let a : Aligner :=
      ⟨.calendar .month, default, some (.number 1704067199), some (.number 1714521600)⟩
    let records := [(Record.new (.number 1707523200)).set "rain" (some 1)]
    ∃ frame start stop, a.alignFields records ["rain"] = .ok frame ∧
      Period.month.Spans start stop frame.labels ∧
      start.date = ⟨2023, 12, 1⟩ ∧ stop.date = ⟨2024, 4, 1⟩ := by
  intro a records
  obtain ⟨frame, h⟩ : ∃ frame, a.alignFields records ["rain"] = .ok frame := ⟨_, rfl⟩
  obtain ⟨start, stop, hstart, hstop, hspans⟩ := (labels_of_alignFields h).1 .month rfl rfl
  have hdates : (a.start? .month records).map (·.date) = some ⟨2023, 12, 1⟩ ∧
      (a.stop? .month records).map (·.date) = some ⟨2024, 4, 1⟩ := by
    decide +kernel
  rw [hstart, hstop] at hdates
  exact ⟨frame, start, stop, h, hspans, Option.some.inj hdates.1, Option.some.inj hdates.2⟩

end Aligner

end Meteogram
