import Meteogram.Proofs.Align.Columns
import Meteogram.Proofs.Align.Faults
import Meteogram.Proofs.Align.Spans

/-!
# Epoch seconds on a calendar

Without a window the labels of a stepped calendar are numbered from the bucket of the first record
to that of the last one, and each record is found under the number of its bucket. For hours and days
this number is the quotient of the seconds that a clock shows: walking over the calendar from bucket
to bucket and dividing epoch seconds agree.
-/
namespace Meteogram

namespace Period

/-- A label stands at the distance of its bucket from the first one. -/
theorem Spans.getElem?_eq {p : Period} {start stop : Instant} {labels : List Label}
    (h : p.Spans start stop labels) (hp : p.isStepped = true) (hstart : p.IsStart start)
    {t : Instant} {slot : ℕ} (hslot : (slot : ℤ) = p.number t - p.number start)
    (hle : p.number t ≤ p.number stop) : labels[slot]? = some (.instant (p.truncate t)) := by
  have hlength := h.length_eq
  have hlt : slot < labels.length := by omega
  have hafter := h.label_eq slot hlt
  rw [after?_of_isStart hp hstart, hslot, add_sub_cancel, start?_number hp] at hafter
  rw [List.getElem?_eq_getElem hlt, ← hafter]
  rfl

/-- The seconds that every bucket of a period lasts, if all of them last equally long. -/
def seconds? : Period → Option ℤ
  | hour => some 3600
  | day => some 86400
  | _ => none

theorem isStepped_of_seconds? {p : Period} {s : ℤ} (h : p.seconds? = some s) :
    p.isStepped = true := by
  cases p <;> first | rfl | cases h

theorem seconds?_pos {p : Period} {s : ℤ} (h : p.seconds? = some s) : 0 < s := by
  cases p <;> cases h <;> decide

/-- The number of a bucket is the quotient of the seconds on the clock. -/
theorem number_eq_ediv {p : Period} {s : ℤ} (h : p.seconds? = some s) (t : Instant) :
    p.number t = t.second / s := by
  cases p <;> cases h <;> rfl

end Period

theorem getElem?_run {n : ℤ} {count i : ℕ} (hi : i < count) : (run n count)[i]? = some (n + i) := by
  rw [run, List.getElem?_map, List.getElem?_range hi, Option.map_some]

theorem pairwise_run (n : ℤ) (count : ℕ) : (run n count).Pairwise (· < ·) := by
  rw [run, List.pairwise_map]
  exact List.pairwise_lt_range.imp fun h => by omega

/-- Records with epoch seconds, and the instants that a clock at the offset shows at them. -/
structure Offset.Shows (offset : Offset) (epochs : List Int64) (records : List Record)
    (instants : List Instant) : Prop where
  times_eq : records.map (·.time) = epochs.map .number
  clock_eq : epochs.map (fun n => offset.instantOf? n.toInt) = instants.map some

namespace Offset.Shows

variable {offset : Offset} {epochs : List Int64} {records : List Record} {instants : List Instant}

theorem length_eq (h : offset.Shows epochs records instants) : epochs.length = instants.length := by
  simpa using congrArg List.length h.clock_eq

theorem toInstant?_eq (h : offset.Shows epochs records instants) :
    records.map (fun r => r.time.toInstant? offset) = instants.map some := by
  have hmap := congrArg (List.map (·.toInstant? offset)) h.times_eq
  rw [List.map_map, List.map_map] at hmap
  exact hmap.trans h.clock_eq

/-- The bucket of a record of hours or days is the quotient of its seconds on the clock. -/
theorem number_eq (h : offset.Shows epochs records instants) {p : Period} {s : ℤ}
    (hs : p.seconds? = some s) {i : ℕ} {n : Int64} {t : Instant} (hn : epochs[i]? = some n)
    (ht : instants[i]? = some t) : p.number t = (n.toInt + offset.seconds) / s := by
  have hclock := congrArg (·[i]?) h.clock_eq
  simp only [List.getElem?_map, hn, ht, Option.map_some, Option.some.injEq] at hclock
  rw [Period.number_eq_ediv hs t, (instantOf?_eq_some.mp hclock).1.1]

/-- What a clock shows at seconds that do not decrease does not decrease. -/
theorem pairwise_instants (h : offset.Shows epochs records instants)
    (hsorted : epochs.Pairwise fun m n => m.toInt ≤ n.toInt) : instants.Pairwise (· ≤ ·) := by
  have hshown : (epochs.map fun n => offset.instantOf? n.toInt).Pairwise
      fun x y => ∀ t u, x = some t → y = some u → t ≤ u := by
    rw [List.pairwise_map]
    refine hsorted.imp fun hle t u ht hu => ?_
    obtain ⟨⟨hts, htn⟩, -⟩ := instantOf?_eq_some.mp ht
    obtain ⟨⟨hus, hun⟩, -⟩ := instantOf?_eq_some.mp hu
    rw [Instant.le_iff]
    omega
  rw [h.clock_eq, List.pairwise_map] at hshown
  exact hshown.imp fun h => h _ _ rfl rfl

/-- Seconds that are exactly a bucket apart fall in consecutive buckets. -/
theorem map_number_eq_run (h : offset.Shows epochs records instants) {p : Period} {s : ℤ}
    (hs : p.seconds? = some s) {first : Int64}
    (hevery : ∀ (i : ℕ) (n : Int64), epochs[i]? = some n → n.toInt = first.toInt + i * s) :
    instants.map p.number = run ((first.toInt + offset.seconds) / s) instants.length := by
  refine List.ext_getElem (by simp) fun i hi _ => ?_
  rw [List.length_map] at hi
  have hn := List.getElem?_eq_getElem (h.length_eq.symm ▸ hi)
  have hnumber := h.number_eq hs hn (List.getElem?_eq_getElem hi)
  rw [hevery i _ hn, add_right_comm, Int.add_mul_ediv_right _ _ (Period.seconds?_pos hs).ne']
    at hnumber
  symm
  rw [List.getElem_map, List.getElem_eq_iff, getElem?_run hi, hnumber]

end Offset.Shows

namespace Aligner

/-- The aligner of a calendar without a window. -/
def withoutWindow (p : Period) (options : AlignOptions) : Aligner :=
  ⟨.calendar p, options, none, none⟩

variable {p : Period} {options : AlignOptions} {records : List Record} {instants : List Instant}
  {field : String}

/-- Without a window an axis begins and ends with its records. -/
theorem start?_stop?_withoutWindow
    (h : records.map (fun r => (withoutWindow p options).instant? r.time) = instants.map some) :
    (withoutWindow p options).start? p records = instants.head?.map p.truncate ∧
      (withoutWindow p options).stop? p records = instants.getLast?.map p.truncate := by
  have hhead := congrArg List.head? h
  have hlast := congrArg List.getLast? h
  simp only [List.head?_map, List.getLast?_map] at hhead hlast
  rw [start?, stop?, bind_of_map_eq hhead, bind_of_map_eq hlast]
  exact ⟨rfl, rfl⟩

/-- Records that follow one another lie in buckets between the first one and the last one. -/
theorem number_mem_of_isChain {policy : DuplicatePolicy}
    (h : (instants.map p.truncate).IsChain policy.Follows) {first last : Instant}
    (hfirst : instants.head? = some first) (hlast : instants.getLast? = some last) {t : Instant}
    (ht : t ∈ instants) : p.number first ≤ p.number t ∧ p.number t ≤ p.number last := by
  have hsorted : instants.Pairwise (p.number · ≤ p.number ·) := by
    have hle := List.isChain_iff_pairwise.mp (h.imp fun _ _ => DuplicatePolicy.Follows.le)
    rw [List.pairwise_map] at hle
    refine hle.imp fun {a b} hab => ?_
    have hnumber := p.number_mono hab
    rwa [Period.number_truncate, Period.number_truncate] at hnumber
  constructor
  · obtain ⟨later, rfl⟩ := List.head?_eq_some_iff.mp hfirst
    rw [List.pairwise_cons] at hsorted
    rcases List.mem_cons.mp ht with rfl | hmem
    · exact le_rfl
    · exact hsorted.1 t hmem
  · obtain ⟨earlier, rfl⟩ := List.getLast?_eq_some_iff.mp hlast
    rw [List.pairwise_append] at hsorted
    rcases List.mem_append.mp ht with hmem | hmem
    · exact hsorted.2.2 t hmem last (List.mem_singleton_self last)
    · rw [List.mem_singleton.mp hmem]

/-- Without a window there are as many labels as buckets from the first record to the last one. The
label of a record stands at the distance of its bucket from the first one, and so does its value if
no later record shares the bucket. -/
theorem exists_series_of_instants (hp : p.isStepped = true)
    (hinstants : records.map (fun r => (withoutWindow p options).instant? r.time) =
      instants.map some)
    (hchain : (instants.map p.truncate).IsChain options.duplicates.Follows)
    {first last : Instant} (hfirst : instants.head? = some first)
    (hlast : instants.getLast? = some last) (hknown : IsKnown records field) :
    ∃ series, (withoutWindow p options).align records field = .ok series ∧
      series.values.length = series.labels.length ∧
      (series.labels.length : ℤ) = p.number last - p.number first + 1 ∧
      ∀ (i : ℕ) (t : Instant) (r : Record), instants[i]? = some t → records[i]? = some r →
        ∃ slot : ℕ,
        (slot : ℤ) = p.number t - p.number first ∧
        series.labels[slot]? = some (.instant (p.truncate t)) ∧
        ((∀ (j : ℕ) (u : Instant), i < j → instants[j]? = some u → p.number u ≠ p.number t) →
          series.values[slot]? = some (r.get field)) := by
  have hne : records ≠ [] := by
    rintro rfl
    rw [List.map_eq_nil_iff.mp hinstants.symm] at hfirst
    cases hfirst
  obtain ⟨frame, hframe⟩ :
      ∃ frame, (withoutWindow p options).alignFields records [field] = .ok frame :=
    exists_alignFields_of_instants rfl rfl hinstants hchain hne (by simpa using hknown)
  obtain ⟨start, stop, hstart, hstop, hspans⟩ := spans_of_alignFields rfl hp hframe
  obtain ⟨hstart', hstop'⟩ := start?_stop?_withoutWindow hinstants
  rw [hstart', hfirst, Option.map_some, Option.some.injEq] at hstart
  rw [hstop', hlast, Option.map_some, Option.some.injEq] at hstop
  subst hstart hstop
  have hlength := hspans.length_eq
  rw [Period.number_truncate, Period.number_truncate] at hlength
  refine ⟨_, align_of_alignFields hframe List.mem_cons_self, List.length_map _, hlength, ?_⟩
  intro i t r ht hr
  obtain ⟨hlo, hhi⟩ := number_mem_of_isChain hchain hfirst hlast (List.mem_of_getElem? ht)
  have hslot : ((p.number t - p.number first).toNat : ℤ) = p.number t - p.number first :=
    Int.toNat_of_nonneg (by omega)
  have hlabel := hspans.getElem?_eq (t := t) hp (p.isStart_truncate hp first)
    (by rw [Period.number_truncate]; exact hslot) (by rw [Period.number_truncate]; exact hhi)
  refine ⟨_, hslot, hlabel, fun halone => ?_⟩
  have hbucket {j : ℕ} {u : Instant} {r' : Record} (hu : instants[j]? = some u)
      (hr' : records[j]? = some r') :
      (withoutWindow p options).bucketOf? r'.time = some (.instant (p.truncate u)) := by
    have htime := congrArg (·[j]?) hinstants
    simp only [List.getElem?_map, hr', hu, Option.map_some, Option.some.injEq] at htime
    exact congrArg (Option.map fun t => Label.instant (p.truncate t)) htime
  have hlatest : (withoutWindow p options).IsLatest records (.instant (p.truncate t)) i := by
    refine ⟨⟨r, hr, hbucket ht hr⟩, fun j r' hj hr' heq => ?_⟩
    obtain ⟨u, hu⟩ : ∃ u, instants[j]? = some u := by
      have hlength := congrArg List.length hinstants
      rw [List.length_map, List.length_map] at hlength
      exact ⟨_, List.getElem?_eq_getElem (hlength ▸ (List.getElem?_eq_some_iff.mp hr').1)⟩
    rw [hbucket hu hr', Option.some.injEq, Label.instant.injEq] at heq
    have hnumber := congrArg p.number heq
    rw [Period.number_truncate, Period.number_truncate] at hnumber
    exact halone j u hj hu hnumber
  rw [latestValues, List.getElem?_map, hlabel, Option.map_some,
    latest?_eq_some_iff.mpr ⟨i, hlatest, hr⟩]
  rfl

/-- Records in consecutive buckets have these as their labels, one for each, under every policy for
shared buckets. -/
theorem align_of_run (hp : p.isStepped = true)
    (hinstants : records.map (fun r => (withoutWindow p options).instant? r.time) =
      instants.map some)
    {n : ℤ} (hrun : instants.map p.number = run n instants.length)
    (hknown : IsKnown records field) :
    (withoutWindow p options).align records field =
        .ok ⟨instants.map fun t => .instant (p.truncate t), records.map (·.get field)⟩ ∧
      (instants.map p.truncate).Nodup := by
  have hlength : records.length = instants.length := by
    simpa using congrArg List.length hinstants
  have hnumber {i : ℕ} {t : Instant} (ht : instants[i]? = some t) : p.number t = n + i := by
    have hi := (List.getElem?_eq_some_iff.mp ht).1
    have hget := congrArg (·[i]?) hrun
    simpa only [List.getElem?_map, ht, Option.map_some, getElem?_run hi,
      Option.some.injEq] using hget
  have hsorted : (instants.map p.truncate).Pairwise (· < ·) := by
    have hlt := pairwise_run n instants.length
    rw [← hrun, List.pairwise_map] at hlt
    rw [List.pairwise_map]
    refine hlt.imp fun {a b} hab => ?_
    rwa [(p.isStart_truncate hp a).lt_iff (p.isStart_truncate hp b), Period.number_truncate,
      Period.number_truncate]
  refine ⟨?_, hsorted.imp fun h => h.ne⟩
  have hne : instants ≠ [] := by
    obtain ⟨r, hr, -⟩ := hknown
    rintro rfl
    rw [List.length_eq_zero_iff.mp hlength] at hr
    cases hr
  have hpos := List.length_pos_iff.mpr hne
  have hhead := List.head?_eq_some_head hne
  have hend := List.getLast?_eq_some_getLast hne
  have hfirst := hnumber (List.head?_eq_getElem?.symm.trans hhead)
  have hlast := hnumber (List.getLast?_eq_getElem?.symm.trans hend)
  obtain ⟨⟨labels, values⟩, hseries, hvalues, hlabels, hslots⟩ := exists_series_of_instants
    hp hinstants (hsorted.imp fun h => Or.inl h).isChain hhead hend hknown
  simp only at hvalues hlabels hslots
  have hat (i : ℕ) (hi : i < instants.length) :
      labels[i]? = some (.instant (p.truncate instants[i])) ∧
      values[i]? = some (records[i].get field) := by
    have ht := List.getElem?_eq_getElem hi
    obtain ⟨slot, hslot, hlabel, hvalue⟩ :=
      hslots i instants[i] records[i] ht (List.getElem?_eq_getElem (hlength ▸ hi))
    have heq : slot = i := by
      have hi := hnumber ht
      omega
    subst heq
    refine ⟨hlabel, hvalue fun j u hj hu => ?_⟩
    rw [hnumber hu, hnumber ht]
    omega
  rw [hseries]
  congr 2
  · refine List.ext_getElem (by rw [List.length_map]; omega) fun i _ hi => ?_
    rw [List.length_map] at hi
    rw [List.getElem_map, List.getElem_eq_iff, (hat i hi).1]
  · refine List.ext_getElem (by rw [List.length_map]; omega) fun i _ hi => ?_
    rw [List.length_map, hlength] at hi
    rw [List.getElem_map, List.getElem_eq_iff, (hat i hi).2]

/-- Hours and days of epoch seconds are found by division. Records with epoch seconds that do not
decrease, all of them in the calendar, are aligned under the policy that keeps the later record. The
labels are as many as the quotients from the first second on the clock to the last one, and each
record is found at the distance of its quotient from the first. Records that are exactly an hour or
a day apart have labels of their own and leave no label between them, under every policy, whatever
the offset is. -/
theorem align_epochs {offset : Offset} {s : ℤ} (hs : p.seconds? = some s) {epochs : List Int64}
    (hclock : offset.Shows epochs records instants)
    (hsorted : epochs.Pairwise fun m n => m.toInt ≤ n.toInt) {first last : Int64}
    (hfirst : epochs.head? = some first) (hlast : epochs.getLast? = some last)
    (hknown : IsKnown records field) :
    let bucket (n : Int64) : ℤ := (n.toInt + offset.seconds) / s
    (∃ series, (withoutWindow p ⟨offset, .lastWins⟩).align records field = .ok series ∧
      (series.labels.length : ℤ) = bucket last - bucket first + 1 ∧
      ∀ (i : ℕ) (n : Int64) (t : Instant) (r : Record), epochs[i]? = some n →
        instants[i]? = some t → records[i]? = some r → ∃ slot : ℕ,
          (slot : ℤ) = bucket n - bucket first ∧
          series.labels[slot]? = some (.instant (p.truncate t)) ∧
          ((∀ (j : ℕ) (m : Int64), i < j → epochs[j]? = some m → bucket m ≠ bucket n) →
            series.values[slot]? = some (r.get field))) ∧
    ((∀ (i : ℕ) (n : Int64), epochs[i]? = some n → n.toInt = first.toInt + i * s) → ∀ policy,
      (withoutWindow p ⟨offset, policy⟩).align records field =
          .ok ⟨instants.map fun t => .instant (p.truncate t), records.map (·.get field)⟩ ∧
        (instants.map p.truncate).Nodup) := by
  intro bucket
  have hp := Period.isStepped_of_seconds? hs
  refine ⟨?_, fun hevery policy =>
    align_of_run hp hclock.toInstant?_eq (hclock.map_number_eq_run hs hevery) hknown⟩
  have hne : instants ≠ [] := by
    rintro rfl
    rw [List.length_eq_zero_iff.mp hclock.length_eq] at hfirst
    cases hfirst
  have hhead := List.head?_eq_some_head hne
  have hend := List.getLast?_eq_some_getLast hne
  have hchain : (instants.map p.truncate).IsChain DuplicatePolicy.lastWins.Follows := by
    rw [Scale.isChain_lastWins_iff, List.pairwise_map]
    exact (hclock.pairwise_instants hsorted).imp fun h => p.truncate_mono h
  have hinstants : records.map (fun r =>
      (withoutWindow p ⟨offset, .lastWins⟩).instant? r.time) = instants.map some :=
    hclock.toInstant?_eq
  obtain ⟨series, hseries, -, hlabels, hslots⟩ :=
    exists_series_of_instants hp hinstants hchain hhead hend hknown
  rw [List.head?_eq_getElem?] at hfirst hhead
  rw [List.getLast?_eq_getElem?] at hlast hend
  rw [hclock.length_eq] at hlast
  rw [hclock.number_eq hs hfirst hhead, hclock.number_eq hs hlast hend] at hlabels
  refine ⟨series, hseries, hlabels, fun i n t r hn ht hr => ?_⟩
  obtain ⟨slot, hslot, hlabel, hvalue⟩ := hslots i t r ht hr
  rw [hclock.number_eq hs hn ht, hclock.number_eq hs hfirst hhead] at hslot
  refine ⟨slot, hslot, hlabel, fun halone => hvalue fun j u hj hu => ?_⟩
  have hm := List.getElem?_eq_getElem (hclock.length_eq ▸ (List.getElem?_eq_some_iff.mp hu).1)
  rw [hclock.number_eq hs hm hu, hclock.number_eq hs hn ht]
  exact halone j _ hj hm

/-- Records an hour apart, from before 1970 on and on a clock with half an hour in its offset. -/
theorem align_epochs_of_half_hour :
    let offset : Offset := ⟨19800, by decide⟩
    let epochs : List Int64 := [-5000, -1400, 2200]
    let instants : List Instant := [⟨14800, 0, by decide, by decide, by decide⟩,
      ⟨18400, 0, by decide, by decide, by decide⟩, ⟨22000, 0, by decide, by decide, by decide⟩]
    let records := epochs.map fun n => (Record.new (.number n)).set "rain" (some 1)
    offset.Shows epochs records instants ∧ (epochs.Pairwise fun m n => m.toInt ≤ n.toInt) ∧
      IsKnown records "rain" ∧
      (∃ series, (withoutWindow .hour ⟨offset, .lastWins⟩).align records "rain" = .ok series ∧
        series.labels.length = 3) ∧
      (withoutWindow .hour ⟨offset, .reject⟩).align records "rain" =
        .ok ⟨instants.map fun t => .instant (Period.hour.truncate t),
          records.map (·.get "rain")⟩ := by
  intro offset epochs instants records
  have hclock : offset.Shows epochs records instants := ⟨rfl, by decide +kernel⟩
  have hsorted : epochs.Pairwise fun m n => m.toInt ≤ n.toInt := by decide
  have hknown : IsKnown records "rain" := ⟨_, List.mem_cons_self, by decide +kernel⟩
  have hfirst : epochs.head? = some (-5000) := rfl
  have hlast : epochs.getLast? = some 2200 := rfl
  obtain ⟨⟨series, hseries, hlength, -⟩, hevery⟩ :=
    align_epochs (p := .hour) rfl hclock hsorted hfirst hlast hknown
  refine ⟨hclock, hsorted, hknown, ⟨series, hseries, ?_⟩, (hevery ?_ .reject).1⟩
  · have hquotients : (((2200 : Int64).toInt + offset.seconds) / 3600 -
        ((-5000 : Int64).toInt + offset.seconds) / 3600 + 1 : ℤ) = 3 := by decide
    exact Int.ofNat_inj.mp (hlength.trans hquotients)
  · intro i n hn
    match i, hn with
    | 0, hn => cases hn; decide
    | 1, hn => cases hn; decide
    | 2, hn => cases hn; decide

end Aligner

end Meteogram
