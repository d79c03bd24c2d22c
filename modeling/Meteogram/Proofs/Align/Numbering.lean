import Meteogram.Proofs.Align.Scale

/-!
# Scales without gaps

Where a scale steps, its buckets have consecutive numbers, and a cursor stands on the bucket with a
certain number or else at the end of the scale. A walk then lays the buckets of its slots in a run:
none is skipped, whether it holds a record or not. `Walk.Dense` is what every step keeps; with it
the slots of a finished axis are all buckets from the first one to the last one.
-/
namespace Meteogram

/-- So many numbers from a number on. -/
def run (n : ℤ) (count : ℕ) : List ℤ := (List.range count).map fun i : ℕ => n + i

@[simp] theorem length_run (n : ℤ) (count : ℕ) : (run n count).length = count := by simp [run]

theorem run_add (n : ℤ) (a b : ℕ) : run n (a + b) = run n a ++ run (n + a) b := by
  simp [run, List.range_add, List.map_map, Function.comp_def, add_assoc]

@[simp] theorem run_one (n : ℤ) : run n 1 = [n] := by simp [run]

theorem run_succ (n : ℤ) (count : ℕ) : run n (count + 1) = n :: run (n + 1) count := by
  rw [add_comm, run_add, run_one]
  rfl

section
variable {κ : Type} [LinearOrder κ] {s : Scale κ} {IsBucket : κ → Prop} {number : κ → ℤ}

/-- A scale whose buckets have consecutive numbers: a step leads from a bucket to the next number,
and there is no step only from the last bucket. -/
structure Scale.Numbered (s : Scale κ) (IsBucket : κ → Prop) (number : κ → ℤ) : Prop where
  lt_iff : ∀ {a b}, IsBucket a → IsBucket b → (a < b ↔ number a < number b)
  of_step : ∀ {a b}, IsBucket a → s.step a = some b → IsBucket b ∧ number b = number a + 1
  of_no_step : ∀ {a b}, IsBucket a → s.step a = none → IsBucket b → number b ≤ number a
  le_reach : ∀ {a b}, IsBucket a → IsBucket b → number b - number a + 1 ≤ s.reach a b

/-- A cursor stands on the bucket with a number, or no bucket has this number or a later one. -/
def CursorAt (IsBucket : κ → Prop) (number : κ → ℤ) (n : ℤ) : Option κ → Prop
  | some c => IsBucket c ∧ number c = n
  | none => ∀ b, IsBucket b → number b < n

theorem Scale.Numbered.cursorAt_step (hn : s.Numbered IsBucket number) {c : κ} (hc : IsBucket c) :
    CursorAt IsBucket number (number c + 1) (s.step c) := by
  cases hstep : s.step c with
  | some d => exact hn.of_step hc hstep
  | none => exact fun b hb => Int.lt_add_one_of_le (hn.of_no_step hc hstep hb)

namespace Scale

/-- The buckets that a cursor passes are those from its number to a limit. -/
theorem number_stepsWhile (hn : s.Numbered IsBucket number) {inside : κ → Bool} {m : ℤ}
    (hinside : ∀ b, IsBucket b → (inside b = true ↔ number b < m)) {top : κ} (htop : IsBucket top)
    (hm : m ≤ number top + 1) (fuel : ℕ) {n : ℤ} {cursor : Option κ}
    (hcursor : CursorAt IsBucket number n cursor)
    (hfuel : ∀ c, cursor = some c → m - n ≤ fuel) :
    (s.stepsWhile inside fuel cursor).map number = run n (m - n).toNat ∧
      ∀ b ∈ s.stepsWhile inside fuel cursor, IsBucket b := by
  induction fuel generalizing n cursor with
  | zero =>
    have hle : m ≤ n := by
      cases cursor with
      | none =>
        have hlt := hcursor top htop
        omega
      | some c =>
        have hle := hfuel c rfl
        omega
    simp [stepsWhile, run, Int.toNat_of_nonpos (show m - n ≤ 0 by omega)]
  | succ fuel ih =>
    cases cursor with
    | none =>
      have hlt := hcursor top htop
      simp [stepsWhile, run, Int.toNat_of_nonpos (show m - n ≤ 0 by omega)]
    | some c =>
      obtain ⟨hc, rfl⟩ := hcursor
      simp only [stepsWhile]
      split_ifs with hin
      · have hlt := (hinside c hc).mp hin
        have hle := hfuel c rfl
        push_cast at hle
        obtain ⟨hmap, hmem⟩ := ih (hn.cursorAt_step hc) fun d _ => by omega
        constructor
        · rw [show (m - number c).toNat = (m - (number c + 1)).toNat + 1 by omega, run_succ,
            List.map_cons, hmap]
        · simpa using ⟨hc, hmem⟩
      · have hle := not_lt.mp (mt (hinside c hc).mpr hin)
        simp [run, Int.toNat_of_nonpos (show m - number c ≤ 0 by omega)]

theorem number_gapBefore (hn : s.Numbered IsBucket number)
    (hs : s.Lawful) {k : κ} (hk : IsBucket k) {n : ℤ} {cursor : Option κ}
    (hcursor : CursorAt IsBucket number n cursor) :
    (s.gapBefore cursor k).map (fun slot => number slot.bucket) = run n (number k - n).toNat ∧
      ∀ slot ∈ s.gapBefore cursor k, IsBucket slot.bucket := by
  have hinside : ∀ b, IsBucket b → (s.before b k = true ↔ number b < number k) := by
    intro b hb
    rw [hs.before_iff, hn.lt_iff hb hk]
  have hfuel : ∀ c, cursor = some c → number k - n ≤ s.reachFrom cursor k := by
    rintro c rfl
    obtain ⟨hc, rfl⟩ := hcursor
    have hreach := hn.le_reach hc hk
    simp only [reachFrom]
    omega
  obtain ⟨hmap, hmem⟩ := number_stepsWhile hn hinside hk (by omega) _ hcursor hfuel
  unfold gapBefore
  simpa [List.map_map, Function.comp_def] using And.intro hmap hmem

theorem number_gapUpTo (hn : s.Numbered IsBucket number)
    (hs : s.Lawful) {last : κ} (hlast : IsBucket last) {n : ℤ} {cursor : Option κ}
    (hcursor : CursorAt IsBucket number n cursor) :
    (s.gapUpTo cursor last).map (fun slot => number slot.bucket) =
        run n (number last + 1 - n).toNat ∧
      ∀ slot ∈ s.gapUpTo cursor last, IsBucket slot.bucket := by
  have hinside : ∀ b, IsBucket b → ((!s.before last b) = true ↔ number b < number last + 1) := by
    intro b hb
    rw [Bool.not_eq_true', ← Bool.not_eq_true, hs.before_iff, hn.lt_iff hlast hb]
    omega
  have hfuel : ∀ c, cursor = some c → number last + 1 - n ≤ s.reachFrom cursor last := by
    rintro c rfl
    obtain ⟨hc, rfl⟩ := hcursor
    have hreach := hn.le_reach hc hlast
    simp only [reachFrom]
    omega
  obtain ⟨hmap, hmem⟩ := number_stepsWhile hn hinside hlast le_rfl _ hcursor hfuel
  unfold gapUpTo
  simpa [List.map_map, Function.comp_def] using And.intro hmap hmem

end Scale

/-- The slots of a walk, from the first one on, are a run of buckets from the start, and the cursor
stands where the run ends. -/
structure Walk.Dense (IsBucket : κ → Prop) (number : κ → ℤ) (start : κ) (w : Walk κ) : Prop where
  isBucket : ∀ slot ∈ w.slots, IsBucket slot.bucket
  numbers_eq : w.slots.reverse.map (fun slot => number slot.bucket) =
    run (number start) w.slots.length
  cursorAt : CursorAt IsBucket number (number start + w.slots.length) w.cursor
  number_previous : ∀ p, w.previous = some p →
    IsBucket p ∧ number p + 1 = number start + w.slots.length
  slots_eq : w.previous = none → w.slots = []

namespace Walk

variable {start : κ} {w : Walk κ}

omit [LinearOrder κ] in
theorem dense_fromStart (hstart : IsBucket start) :
    Dense IsBucket number start (fromStart start) := by
  constructor <;> simp [fromStart, run, CursorAt, hstart]

/-- Filling a bucket after the run makes the run longer, up to this bucket. -/
theorem Dense.fill (hn : s.Numbered IsBucket number) (hs : s.Lawful)
    (h : Dense IsBucket number start w) {k : κ} (hk : IsBucket k)
    (hle : number start + w.slots.length ≤ number k) (r : Record) :
    Dense IsBucket number start (s.fill w k r) := by
  obtain ⟨hmap, hmem⟩ := Scale.number_gapBefore hn hs hk h.cursorAt
  have hgap := congrArg List.length hmap
  simp only [List.length_map, length_run] at hgap
  have hlength : (s.fill w k r).slots.length =
      w.slots.length + (s.gapBefore w.cursor k).length + 1 := by
    simp only [Scale.fill, List.length_cons, List.length_append, List.length_reverse]
    omega
  have hnext : number k + 1 = number start + (s.fill w k r).slots.length := by
    rw [hlength, hgap]
    push_cast
    omega
  constructor
  · intro slot hslot
    simp only [Scale.fill, List.mem_cons, List.mem_append, List.mem_reverse] at hslot
    rcases hslot with rfl | hslot | hslot
    · exact hk
    · exact hmem slot hslot
    · exact h.isBucket slot hslot
  · rw [← hgap] at hmap
    have hk : number start + ↑(w.slots.length + (s.gapBefore w.cursor k).length) = number k := by
      push_cast
      omega
    rw [hlength, run_add, run_add, ← h.numbers_eq, ← hmap, hk, run_one]
    simp [Scale.fill]
  · rw [← hnext]
    exact hn.cursorAt_step hk
  · rintro p hp
    cases hp
    exact ⟨hk, hnext⟩
  · intro hnone
    cases hnone

omit [LinearOrder κ] in
theorem Dense.overwrite (h : Dense IsBucket number start w) (r : Record) :
    Dense IsBucket number start (w.overwrite r) := by
  obtain ⟨slots, cursor, previous⟩ := w
  cases slots with
  | nil => exact h
  | cons first earlier =>
    obtain ⟨hbucket, hnumbers, hcursor, hprevious, hslots⟩ := h
    constructor
    · simpa [Walk.overwrite] using hbucket
    · simpa [Walk.overwrite] using hnumbers
    · exact hcursor
    · exact hprevious
    · intro hnone
      cases hslots hnone

/-- One step: laying a record keeps the run. -/
theorem Dense.lay (hn : s.Numbered IsBucket number) (hs : s.Lawful)
    (h : Dense IsBucket number start w) {k : κ} (hk : IsBucket k)
    (hle : number start ≤ number k) {policy : DuplicatePolicy} {position : ℕ} {r : Record}
    {w' : Walk κ} (hw : s.lay policy position w k r = .ok w') :
    Dense IsBucket number start w' := by
  rcases Scale.lay_cases hs hw with ⟨rfl, hlater⟩ | ⟨rfl, -, -⟩
  · apply h.fill hn hs hk
    cases hp : w.previous with
    | none => simpa [h.slots_eq hp] using hle
    | some p =>
      obtain ⟨hbucket, hnumber⟩ := h.number_previous p hp
      have hlt := (hn.lt_iff hbucket hk).mp (hlater p hp)
      omega
  · exact h.overwrite r

/-- A whole run over records keeps it. -/
theorem Dense.layFrom (hn : s.Numbered IsBucket number) (hs : s.Lawful)
    (h : Dense IsBucket number start w) {policy : DuplicatePolicy} {position : ℕ}
    {laid : List (κ × Record)} (hlaid : ∀ e ∈ laid, IsBucket e.1 ∧ number start ≤ number e.1)
    {w' : Walk κ} (hw : s.layFrom policy position w laid = .ok w') :
    Dense IsBucket number start w' := by
  induction laid generalizing position w with
  | nil =>
    cases hw
    exact h
  | cons e laid ih =>
    obtain ⟨k, r⟩ := e
    obtain ⟨w₁, hlay, hrest⟩ := Except.bind_eq_ok.mp hw
    obtain ⟨hk, hle⟩ := hlaid (k, r) List.mem_cons_self
    exact ih (h.lay hn hs hk hle hlay) (fun e he => hlaid e (List.mem_cons_of_mem _ he)) hrest

/-- A finished axis has all buckets from its start to its last one. -/
theorem Dense.number_finish (hn : s.Numbered IsBucket number) (hs : s.Lawful)
    (h : Dense IsBucket number start w) {p last : κ} (hp : w.previous = some p)
    (hlast : IsBucket last) (hle : p ≤ last) :
    (s.finish w last).map (fun slot => number slot.bucket) =
        run (number start) (number last + 1 - number start).toNat ∧
      ∀ slot ∈ s.finish w last, IsBucket slot.bucket := by
  obtain ⟨hmap, hmem⟩ := Scale.number_gapUpTo hn hs hlast h.cursorAt
  obtain ⟨hbucket, hnumber⟩ := h.number_previous p hp
  have hplast := mt (hn.lt_iff hlast hbucket).mpr (not_lt.mpr hle)
  constructor
  · rw [Scale.finish, List.map_append, h.numbers_eq, hmap, ← run_add]
    congr 1
    omega
  · intro slot hslot
    rcases List.mem_append.mp hslot with hslot | hslot
    · exact h.isBucket slot (List.mem_reverse.mp hslot)
    · exact hmem slot hslot

end Walk

namespace Scale

variable {policy : DuplicatePolicy} {records : List Record} {fields : List String}
  {frame : AlignedFrame} {first : κ} {rest : List κ} {w : Walk κ}

/-- On a scale without gaps the labels are those of a run of buckets. -/
theorem IsAligned.exists_run (hn : s.Numbered IsBucket number) (hs : s.Lawful)
    (h : s.IsAligned policy records fields frame first rest w) {start last : κ}
    (hbounds : s.bounds first (rest.getLastD first) = (start, last)) (hstart : IsBucket start)
    (hlast : IsBucket last)
    (hkeys : ∀ k ∈ first :: rest, IsBucket k ∧ start ≤ k ∧ k ≤ last) :
    ∃ buckets : List κ, frame.labels = buckets.map s.label ∧ (∀ b ∈ buckets, IsBucket b) ∧
      buckets.map number = run (number start) (number last + 1 - number start).toNat := by
  have hzip := map_fst_zip h.keys_eq
  have hwalk := h.walk_eq
  have hprevious := h.covers.previous_eq
  rw [← List.getLast?_map, hzip] at hprevious
  rw [hbounds] at hwalk
  have hlaid : ∀ e ∈ (first :: rest).zip records, IsBucket e.1 ∧ number start ≤ number e.1 := by
    intro e he
    obtain ⟨hb, hle, -⟩ := hkeys e.1 (hzip ▸ List.mem_map_of_mem he)
    exact ⟨hb, not_lt.mp (mt (hn.lt_iff hb hstart).mpr (not_lt.mpr hle))⟩
  have hempty : Walk.Dense IsBucket number start (.fromStart start) := Walk.dense_fromStart hstart
  have hdense := hempty.layFrom hn hs hlaid hwalk
  obtain ⟨p, hp, hpk⟩ : ∃ p, w.previous = some p ∧ p ∈ first :: rest := by
    rw [hprevious, List.getLast?_eq_some_getLast (List.cons_ne_nil first rest)]
    exact ⟨_, rfl, List.getLast_mem _⟩
  obtain ⟨hmap, hmem⟩ := hdense.number_finish hn hs hp hlast (hkeys p hpk).2.2
  refine ⟨(s.finish w last).map (·.bucket), ?_, ?_, ?_⟩
  · rw [h.frame_eq, hbounds]
    simp [AlignedFrame.ofSlots, Function.comp_def]
  · simpa using hmem
  · simpa [Function.comp_def] using hmap

end Scale

end

end Meteogram
