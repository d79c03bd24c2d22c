import Meteogram.Proofs.Align.Aligner
import Meteogram.Proofs.Align.Numbering

/-!
# Stepped calendar axes

A stepped calendar numbers its buckets, so the labels of its frames are all buckets from a start to
a stop. Both follow from the records at the ends and from the window; where all records fall in the
window, from the window alone.
-/
namespace Meteogram

/-- The labels of a calendar axis that has all buckets of a period from a start to a stop. -/
structure Period.Spans (p : Period) (start stop : Instant) (labels : List Label) : Prop where
  length_eq : (labels.length : ℤ) = p.number stop - p.number start + 1
  /-- Each label is moved from the start at once, and not from label to label. -/
  label_eq : ∀ i (hi : i < labels.length), (p.after? start i).map .instant = some labels[i]
  getLast?_eq : labels.getLast? = some (.instant stop)

/-- Stepping from the start of a bucket numbers the starts of all buckets. -/
theorem CalendarScale.numbered_toScale (s : CalendarScale) (hp : s.period.isStepped = true) :
    s.toScale.Numbered s.period.IsStart s.period.number where
  lt_iff ha hb := ha.lt_iff hb
  of_step := by
    intro a b ha hstep
    change s.period.advance a = some b at hstep
    rw [Period.advance_of_isStart hp ha] at hstep
    exact Period.start?_eq_some.mp hstep
  of_no_step := by
    intro a b ha hstep hb
    change s.period.advance a = none at hstep
    rw [Period.advance_of_isStart hp ha] at hstep
    by_contra hlt
    have hsome := Period.start?_isSome (p := s.period) (show s.period.number a ≤ _ + 1 by omega)
      (show s.period.number a + 1 ≤ s.period.number b by omega)
    rw [hstep] at hsome
    cases hsome
  le_reach := by
    intro a b ha hb
    change s.period.number b - s.period.number a + 1 ≤
      ↑(((b.second - a.second) / 3600).toNat + 2)
    by_cases hle : s.period.number a ≤ s.period.number b
    · have hadd := s.period.startSecond_add hp (s.period.number a)
        (s.period.number b - s.period.number a).toNat
      rw [Int.toNat_of_nonneg (by omega), ← ha.second_eq, add_sub_cancel, ← hb.second_eq] at hadd
      omega
    · omega

theorem CalendarScale.earlier_eq_min (a b : Instant) : earlier a b = min a b := by
  unfold earlier
  split_ifs with h
  · exact (min_eq_right h.le).symm
  · exact (min_eq_left (not_lt.mp h)).symm

theorem CalendarScale.later_eq_max (a b : Instant) : later a b = max a b := by
  unfold later
  split_ifs with h
  · exact (max_eq_right h.le).symm
  · exact (max_eq_left (not_lt.mp h)).symm

theorem Period.IsStart.min {p : Period} {a b : Instant} (ha : p.IsStart a) (hb : p.IsStart b) :
    p.IsStart (min a b) := by
  rcases min_choice a b with h | h
  · rwa [h]
  · rwa [h]

theorem Period.IsStart.max {p : Period} {a b : Instant} (ha : p.IsStart a) (hb : p.IsStart b) :
    p.IsStart (max a b) := by
  rcases max_choice a b with h | h
  · rwa [h]
  · rwa [h]

/-- An axis begins no later than its first record and ends no earlier than its last one. -/
theorem CalendarScale.bounds_spec (s : CalendarScale) (hp : s.period.isStepped = true)
    {first last : Instant} (hfirst : s.period.IsStart first) (hlast : s.period.IsStart last) :
    s.period.IsStart (s.bounds first last).1 ∧ (s.bounds first last).1 ≤ first ∧
      s.period.IsStart (s.bounds first last).2 ∧ last ≤ (s.bounds first last).2 := by
  have hstart (t : Instant) := s.period.isStart_truncate hp t
  simp only [bounds, hp, if_true, earlier_eq_min, later_eq_max]
  refine ⟨?_, ?_, ?_, ?_⟩
  · cases s.lower with
    | none => exact hfirst
    | some t => exact hfirst.min (hstart t)
  · cases s.lower with
    | none => exact le_rfl
    | some t => exact min_le_left ..
  · cases s.upper.bind (·.addSeconds? (-1)) with
    | none => exact hlast
    | some t => exact hlast.max (hstart t)
  · cases s.upper.bind (·.addSeconds? (-1)) with
    | none => exact le_rfl
    | some t => exact le_max_left ..

/-- The buckets of a run are the starts with its numbers. -/
theorem Period.map_some_of_run {p : Period} {buckets : List Instant}
    (hb : ∀ b ∈ buckets, p.IsStart b) {n : ℤ} {count : ℕ}
    (h : buckets.map p.number = run n count) :
    buckets.map some = (List.range count).map fun i : ℕ => p.start? (n + i) := by
  have hstart : buckets.map some = (buckets.map p.number).map p.start? := by
    rw [List.map_map]
    apply List.map_congr_left
    intro b hmem
    exact (start?_eq_some.mpr ⟨hb b hmem, rfl⟩).symm
  rw [hstart, h, run, List.map_map]
  rfl

theorem Period.spans_of_run {p : Period} (hp : p.isStepped = true) {start stop : Instant}
    (hstart : p.IsStart start) (hstop : p.IsStart stop) (hle : start ≤ stop)
    {buckets : List Instant} (hb : ∀ b ∈ buckets, p.IsStart b)
    (h : buckets.map p.number =
      run (p.number start) (p.number stop + 1 - p.number start).toNat) :
    p.Spans start stop (buckets.map .instant) := by
  have hnum := p.number_mono hle
  have hsome := map_some_of_run hb h
  have hlength := congrArg List.length h
  simp only [List.length_map, length_run] at hlength
  have hget : ∀ i (hi : i < buckets.length), p.start? (p.number start + i) = some buckets[i] := by
    intro i hi
    have hi' := congrArg (·[i]?) hsome
    simp only [List.getElem?_map, List.getElem?_eq_getElem hi, Option.map_some,
      List.getElem?_range (hlength ▸ hi)] at hi'
    exact (Option.some.inj hi').symm
  constructor
  · rw [List.length_map]
    omega
  · intro i hi
    rw [List.length_map] at hi
    rw [after?_of_isStart hp hstart, hget i hi, List.getElem_map]
    rfl
  · have hpos : buckets.length - 1 < buckets.length := by omega
    have hlast := hget (buckets.length - 1) hpos
    rw [show p.number start + ↑(buckets.length - 1) = p.number stop by omega,
      start?_eq_some.mpr ⟨hstop, rfl⟩, Option.some.injEq] at hlast
    rw [List.getLast?_map, List.getLast?_eq_getElem?, List.getElem?_eq_getElem hpos, ← hlast]
    rfl

namespace Aligner

variable {a : Aligner} {records : List Record} {fields : List String} {frame : AlignedFrame}

/-- Where a calendar axis begins: with the bucket of the first record or with that of the lower
bound, whichever is earlier. -/
def start? (a : Aligner) (p : Period) (records : List Record) : Option Instant :=
  (records.head?.bind fun r => a.instant? r.time).map fun t =>
    match a.lower.bind a.instant? with
    | some lower => min (p.truncate t) (p.truncate lower)
    | none => p.truncate t

/-- Where a calendar axis ends: with the bucket of the last record or with that of the second before
the upper bound, whichever is later. -/
def stop? (a : Aligner) (p : Period) (records : List Record) : Option Instant :=
  (records.getLast?.bind fun r => a.instant? r.time).map fun t =>
    match (a.upper.bind a.instant?).bind (·.addSeconds? (-1)) with
    | some upper => max (p.truncate t) (p.truncate upper)
    | none => p.truncate t

theorem bind_of_map_eq {α β : Type} {f : α → Option β} {x : Option α} {y : Option β}
    (h : x.map f = y.map some) : x.bind f = y := by
  cases x <;> cases y <;> simp_all

theorem exists_instants {p : Period} {keys : List Instant}
    (h : records.map (fun r => (a.calendarScale p).toScale.bucket? r.time) = keys.map some) :
    ∃ instants : List Instant, records.map (fun r => a.instant? r.time) = instants.map some ∧
      keys = instants.map p.truncate := by
  simp only [bucket?_calendarScale] at h
  induction records generalizing keys with
  | nil =>
    rw [List.map_nil, eq_comm, List.map_eq_nil_iff] at h
    exact ⟨[], rfl, h⟩
  | cons r rs ih =>
    cases keys with
    | nil => cases h
    | cons k keys =>
      rw [List.map_cons, List.map_cons, List.cons.injEq] at h
      obtain ⟨instants, hinstants, rfl⟩ := ih h.2
      obtain ⟨t, ht, rfl⟩ := Option.map_eq_some_iff.mp h.1
      exact ⟨t :: instants, by simp [ht, hinstants], rfl⟩

/-- Records whose buckets follow one another can be laid on a calendar. -/
theorem exists_alignFields_of_instants {p : Period} (ha : a.axis = .calendar p)
    (hfault : a.axisFault? = none) {instants : List Instant}
    (hinstants : records.map (fun r => a.instant? r.time) = instants.map some)
    (hchain : (instants.map p.truncate).IsChain a.options.duplicates.Follows) (hne : records ≠ [])
    (hknown : ∀ f ∈ fields, IsKnown records f) :
    ∃ frame, a.alignFields records fields = .ok frame := by
  have hs := laysOn_calendarScale ha hfault
  have hkeys : records.map (fun r => (a.calendarScale p).toScale.bucket? r.time) =
      (instants.map p.truncate).map some := by
    have hmap := congrArg (List.map (Option.map p.truncate)) hinstants
    rw [List.map_map, List.map_map] at hmap
    simp only [bucket?_calendarScale, List.map_map]
    exact hmap
  cases instants with
  | nil => exact absurd (List.map_eq_nil_iff.mp hinstants) hne
  | cons first rest =>
    obtain ⟨frame, w, hframe, -⟩ := Scale.align_of_follows hs.lawful hknown hkeys hchain
    exact ⟨frame, (hs.alignFields_eq records fields).trans hframe⟩

/-- The bounds of a stepped calendar are the start and the stop of the axis. -/
theorem start?_stop?_eq_bounds {p : Period} (hp : p.isStepped = true) {first : Instant}
    {rest : List Instant}
    (h : records.map (fun r => (a.calendarScale p).toScale.bucket? r.time) =
      (first :: rest).map some) :
    a.start? p records = some ((a.calendarScale p).bounds first (rest.getLastD first)).1 ∧
      a.stop? p records = some ((a.calendarScale p).bounds first (rest.getLastD first)).2 := by
  obtain ⟨instants, hinstants, hkeys⟩ := exists_instants h
  have hhead := congrArg List.head? hinstants
  have hlast := congrArg List.getLast? hinstants
  have hfirst := congrArg List.head? hkeys
  have hfinal := congrArg List.getLast? hkeys
  simp only [List.head?_map, List.getLast?_map, List.head?_cons,
    List.getLast?_cons] at hhead hlast hfirst hfinal
  obtain ⟨t, ht, rfl⟩ := Option.map_eq_some_iff.mp hfirst.symm
  obtain ⟨u, hu, hend⟩ := Option.map_eq_some_iff.mp hfinal.symm
  rw [List.getLastD_eq_getLast?, ← hend]
  simp only [CalendarScale.bounds, calendarScale, hp, if_true, CalendarScale.earlier_eq_min,
    CalendarScale.later_eq_max]
  rw [start?, stop?, bind_of_map_eq hhead, bind_of_map_eq hlast, ht, hu]
  exact ⟨rfl, rfl⟩

/-- The labels of a stepped calendar are the starts of all buckets from the start of the axis to its
stop. -/
theorem exists_run_of_alignFields {p : Period} (ha : a.axis = .calendar p)
    (hp : p.isStepped = true) (h : a.alignFields records fields = .ok frame) :
    ∃ (start stop : Instant) (buckets : List Instant),
      (a.start? p records = some start ∧ a.stop? p records = some stop) ∧
      (p.IsStart start ∧ p.IsStart stop ∧ start ≤ stop) ∧
      frame.labels = buckets.map .instant ∧ (∀ b ∈ buckets, p.IsStart b) ∧
      buckets.map p.number =
        run (p.number start) (p.number stop + 1 - p.number start).toNat := by
  have hs := laysOn_calendarScale ha (axisFault?_of_alignFields h)
  rw [hs.alignFields_eq] at h
  obtain ⟨first, rest, w, hal⟩ := Scale.isAligned_of_align hs.lawful h
  obtain ⟨instants, -, hkeys⟩ := exists_instants hal.keys_eq
  have hbucket : ∀ k ∈ first :: rest, p.IsStart k := by
    intro k hk
    obtain ⟨t, -, rfl⟩ := List.mem_map.mp (hkeys ▸ hk)
    exact p.isStart_truncate hp t
  obtain ⟨hs₁, hle₁, hs₂, hle₂⟩ := (a.calendarScale p).bounds_spec hp
    (hbucket first List.mem_cons_self) (hbucket (rest.getLastD first) List.getLastD_mem_cons)
  obtain ⟨buckets, hlabels, hb, hrun⟩ := hal.exists_run
    ((a.calendarScale p).numbered_toScale hp) hs.lawful rfl hs₁ hs₂
    fun k hk => ⟨hbucket k hk, hle₁.trans (hal.first_le k hk), (hal.le_last k hk).trans hle₂⟩
  exact ⟨_, _, buckets, start?_stop?_eq_bounds hp hal.keys_eq,
    ⟨hs₁, hs₂, hle₁.trans ((hal.le_last first List.mem_cons_self).trans hle₂)⟩, hlabels, hb, hrun⟩

/-- On a stepped calendar the labels are all buckets from the start to the stop. -/
theorem spans_of_alignFields {p : Period} (ha : a.axis = .calendar p) (hp : p.isStepped = true)
    (h : a.alignFields records fields = .ok frame) :
    ∃ start stop, a.start? p records = some start ∧ a.stop? p records = some stop ∧
      p.Spans start stop frame.labels := by
  obtain ⟨start, stop, buckets, hbounds, ⟨hstart, hstop, hle⟩, hlabels, hb, hrun⟩ :=
    exists_run_of_alignFields ha hp h
  refine ⟨start, stop, hbounds.1, hbounds.2, ?_⟩
  rw [hlabels]
  exact Period.spans_of_run hp hstart hstop hle hb hrun

/-- Where all records fall in the window, the labels are all buckets of the window. -/
theorem spans_of_window {p : Period} (ha : a.axis = .calendar p) (hp : p.isStepped = true)
    (h : a.alignFields records fields = .ok frame) {first last : Instant}
    (hfirst : a.lower.bind a.instant? = some first)
    (hlast : (a.upper.bind a.instant?).bind (·.addSeconds? (-1)) = some last)
    (hinside : ∀ r ∈ records, ∃ t, a.instant? r.time = some t ∧
      p.truncate first ≤ p.truncate t ∧ p.truncate t ≤ p.truncate last) :
    p.Spans (p.truncate first) (p.truncate last) frame.labels := by
  obtain ⟨start, stop, hstart, hstop, hspans⟩ := spans_of_alignFields ha hp h
  rw [start?, hfirst] at hstart
  rw [stop?, hlast] at hstop
  obtain ⟨t, ht, rfl⟩ := Option.map_eq_some_iff.mp hstart
  obtain ⟨u, hu, rfl⟩ := Option.map_eq_some_iff.mp hstop
  obtain ⟨r, hr, htr⟩ := Option.bind_eq_some_iff.mp ht
  obtain ⟨r', hr', hur⟩ := Option.bind_eq_some_iff.mp hu
  obtain ⟨t', ht', hle, -⟩ := hinside r (List.mem_of_head? hr)
  obtain ⟨u', hu', -, hle'⟩ := hinside r' (List.mem_of_getLast? hr')
  rw [htr, Option.some.injEq] at ht'
  rw [hur, Option.some.injEq] at hu'
  subst ht' hu'
  simp only [min_eq_right hle, max_eq_right hle'] at hspans
  exact hspans

end Aligner

end Meteogram
