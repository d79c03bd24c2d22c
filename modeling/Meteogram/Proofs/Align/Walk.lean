import Mathlib.Order.Basic
import Mathlib.Tactic
import Meteogram.Align.Slot
import Meteogram.Proofs.Except

/-!
# The walk over sorted records

A walk lays records one after another and remembers no more than its slots, its cursor and the
bucket of the latest record. `Walk.Covers` says what these are after any number of records: the
slots stand in order, each holds the latest record of its bucket, and no record is left out. One
step keeps this, so a whole run does; a run ends early exactly at the first record whose bucket does
not follow the bucket of the record before it.
-/
namespace Meteogram

/-- Labels of one axis stand in its order; others do not compare. -/
instance : LT Label where
  lt
    | .instant a, .instant b => a < b
    | .index a, .index b => a < b
    | _, _ => False

/-- A scale that goes by the order of its buckets and finds the bucket of a time wherever its record
stands. -/
structure Scale.Lawful {κ : Type} [LinearOrder κ] (s : Scale κ) : Prop where
  before_iff : ∀ a b, s.before a b = true ↔ a < b
  lt_of_step : ∀ a b, s.step a = some b → a < b
  bucketOf_ok : ∀ i j time k, s.bucketOf i time = .ok k → s.bucketOf j time = .ok k
  label_lt : ∀ a b, s.label a < s.label b ↔ a < b

/-- Whether a bucket may come right after another one among the buckets of records. -/
def DuplicatePolicy.Follows {κ : Type} [LT κ] (policy : DuplicatePolicy) (a b : κ) : Prop :=
  a < b ∨ policy = .lastWins ∧ a = b

/-- What is wrong with a record at a position whose bucket does not follow the bucket of the record
before it. -/
inductive Misplaced (policy : DuplicatePolicy) (position : ℕ) (previous bucket : Label) :
    AlignError → Prop
  | earlier (h : bucket < previous) : Misplaced policy position previous bucket (.unsorted position)
  | again (hp : policy = .reject) (h : bucket = previous) :
    Misplaced policy position previous bucket (.duplicateBucket position bucket.text)

/-- Where not all members of a list satisfy a condition, one of them is the first that does not. -/
theorem exists_first_not {α : Type} {P : α → Prop} {l : List α} (h : ¬ ∀ x ∈ l, P x) :
    ∃ i x, l[i]? = some x ∧ ¬ P x ∧ ∀ y ∈ l.take i, P y := by
  induction l with
  | nil => simp at h
  | cons x l ih =>
    by_cases hx : P x
    · rw [List.forall_mem_cons, not_and] at h
      obtain ⟨i, y, hy, hnot, hbefore⟩ := ih (h hx)
      refine ⟨i + 1, y, hy, hnot, ?_⟩
      rw [List.take_succ_cons, List.forall_mem_cons]
      exact ⟨hx, hbefore⟩
    · exact ⟨0, x, rfl, hx, by simp⟩

/-- Where the members of a list do not follow one another throughout, one of them is the first that
does not. -/
theorem exists_first_not_follows {α : Type} {R : α → α → Prop} {l : List α} (h : ¬ l.IsChain R) :
    ∃ i a b, l[i]? = some a ∧ l[i + 1]? = some b ∧ ¬ R a b ∧ (l.take (i + 1)).IsChain R := by
  induction l with
  | nil => simp at h
  | cons a l ih =>
    cases l with
    | nil => simp at h
    | cons b l =>
      by_cases hab : R a b
      · rw [List.isChain_cons_cons, not_and] at h
        obtain ⟨i, c, d, hc, hd, hnot, hbefore⟩ := ih (h hab)
        refine ⟨i + 1, c, d, hc, hd, hnot, ?_⟩
        rw [List.take_succ_cons, List.take_succ_cons, List.isChain_cons_cons]
        exact ⟨hab, hbefore⟩
      · exact ⟨0, a, b, rfl, rfl, hab, by simp⟩

section
variable {κ : Type} [LinearOrder κ]

theorem DuplicatePolicy.Follows.le {policy : DuplicatePolicy} {a b : κ} (h : policy.Follows a b) :
    a ≤ b := by
  rcases h with h | ⟨-, h⟩
  · exact h.le
  · exact h.le

/-- The latest of some records that falls in a bucket. -/
def latestIn (laid : List (κ × Record)) (k : κ) : Option Record :=
  ((laid.filter (·.1 = k)).getLast?).map (·.2)

theorem latestIn_append (laid : List (κ × Record)) (k : κ) (r : Record) (b : κ) :
    latestIn (laid ++ [(k, r)]) b = if k = b then some r else latestIn laid b := by
  unfold latestIn
  by_cases h : k = b <;> simp [h]

theorem latestIn_eq_none {laid : List (κ × Record)} {k : κ} (h : ∀ e ∈ laid, e.1 ≠ k) :
    latestIn laid k = none := by
  have hnil : laid.filter (fun e => decide (e.1 = k)) = [] := by simpa using h
  rw [latestIn, hnil]
  rfl

namespace Scale

variable {s : Scale κ}

/-- The buckets that a cursor passes satisfy the condition, increase, and begin with the cursor. -/
theorem stepsWhile_spec (hs : s.Lawful) (inside : κ → Bool) (fuel : ℕ) (cursor : Option κ) :
    (s.stepsWhile inside fuel cursor).Pairwise (· < ·) ∧
      ∀ b ∈ s.stepsWhile inside fuel cursor, inside b = true ∧ ∃ c, cursor = some c ∧ c ≤ b := by
  induction fuel generalizing cursor with
  | zero => simp [stepsWhile]
  | succ fuel ih =>
    cases cursor with
    | none => simp [stepsWhile]
    | some c =>
      obtain ⟨hpair, hmem⟩ := ih (s.step c)
      simp only [stepsWhile]
      split_ifs with hc
      · have hlt : ∀ b ∈ s.stepsWhile inside fuel (s.step c), c < b := by
          intro b hb
          obtain ⟨-, d, hd, hdb⟩ := hmem b hb
          exact (hs.lt_of_step c d hd).trans_le hdb
        refine ⟨List.pairwise_cons.mpr ⟨hlt, hpair⟩, ?_⟩
        intro b hb
        rcases List.mem_cons.mp hb with rfl | hb
        · exact ⟨hc, b, rfl, le_rfl⟩
        · exact ⟨(hmem b hb).1, c, rfl, (hlt b hb).le⟩
      · simp

/-- Empty slots from a cursor on, in increasing order and under a condition. -/
structure IsGap (inside : κ → Prop) (cursor : Option κ) (gap : List (Slot κ)) : Prop where
  increasing : (gap.map (·.bucket)).Pairwise (· < ·)
  empty : ∀ slot ∈ gap, slot.record = none
  inside : ∀ slot ∈ gap, inside slot.bucket
  from_cursor : ∀ slot ∈ gap, ∃ c, cursor = some c ∧ c ≤ slot.bucket

theorem isGap_stepsWhile (hs : s.Lawful) (inside : κ → Bool) (fuel : ℕ) (cursor : Option κ) :
    IsGap (inside · = true) cursor ((s.stepsWhile inside fuel cursor).map (⟨·, none⟩)) := by
  obtain ⟨hpair, hmem⟩ := stepsWhile_spec hs inside fuel cursor
  constructor
  · simpa [Function.comp_def] using hpair
  · simp
  · simpa using fun b hb => (hmem b hb).1
  · simpa using fun b hb => (hmem b hb).2

theorem isGap_gapBefore (hs : s.Lawful) (cursor : Option κ) (k : κ) :
    IsGap (· < k) cursor (s.gapBefore cursor k) := by
  have h := isGap_stepsWhile hs (s.before · k) (s.reachFrom cursor k) cursor
  simp only [hs.before_iff] at h
  exact h

theorem isGap_gapUpTo (hs : s.Lawful) (cursor : Option κ) (last : κ) :
    IsGap (· ≤ last) cursor (s.gapUpTo cursor last) := by
  have h := isGap_stepsWhile hs (fun k => !s.before last k) (s.reachFrom cursor last) cursor
  simp only [Bool.not_eq_true', ← Bool.not_eq_true, hs.before_iff, not_lt] at h
  exact h

end Scale

/-- What a walk is after it has laid some records from a start on. -/
structure Walk.Covers (s : Scale κ) (start : κ) (laid : List (κ × Record)) (w : Walk κ) : Prop where
  previous_eq : w.previous = laid.getLast?.map (·.1)
  cursor_eq : w.cursor = match w.previous with | none => some start | some p => s.step p
  /-- The latest slot is that of the latest record. -/
  head_eq : w.slots.head?.map (·.bucket) = w.previous
  decreasing : (w.slots.map (·.bucket)).Pairwise (· > ·)
  record_eq : ∀ slot ∈ w.slots, slot.record = latestIn laid slot.bucket
  mem : ∀ e ∈ laid, e.1 ∈ w.slots.map (·.bucket)

namespace Walk

variable {s : Scale κ} {start : κ} {laid : List (κ × Record)} {w : Walk κ}

theorem covers_fromStart (s : Scale κ) (start : κ) : Covers s start [] (fromStart start) := by
  constructor <;> simp [fromStart]

/-- The latest slot comes last on the axis. -/
theorem Covers.le_previous (h : Covers s start laid w) :
    ∀ slot ∈ w.slots, ∃ p, w.previous = some p ∧ slot.bucket ≤ p := by
  intro slot hslot
  have hhead := h.head_eq
  have hdec := h.decreasing
  cases hw : w.slots with
  | nil => simp [hw] at hslot
  | cons first earlier =>
    rw [hw] at hslot hhead hdec
    refine ⟨first.bucket, hhead.symm, ?_⟩
    rcases List.mem_cons.mp hslot with rfl | hmem
    · exact le_rfl
    · exact ((List.pairwise_cons.mp hdec).1 _ (List.mem_map_of_mem hmem)).le

/-- Where there is a cursor, all slots are before it. -/
theorem Covers.lt_cursor (hs : s.Lawful) (h : Covers s start laid w) {c : κ}
    (hc : w.cursor = some c) : ∀ slot ∈ w.slots, slot.bucket < c := by
  intro slot hslot
  obtain ⟨p, hp, hle⟩ := h.le_previous slot hslot
  rw [h.cursor_eq, hp] at hc
  exact hle.trans_lt (hs.lt_of_step p c hc)

/-- No record falls in an empty slot after the cursor. -/
theorem Covers.latestIn_gap (hs : s.Lawful) (h : Covers s start laid w) {inside : κ → Prop}
    {gap : List (Slot κ)} (hg : Scale.IsGap inside w.cursor gap) :
    ∀ slot ∈ gap, latestIn laid slot.bucket = none := by
  intro slot hslot
  obtain ⟨c, hc, hcle⟩ := hg.from_cursor slot hslot
  apply latestIn_eq_none
  intro e he heq
  obtain ⟨other, hother, hbucket⟩ := List.mem_map.mp (h.mem e he)
  have hlt := h.lt_cursor hs hc other hother
  rw [hbucket, heq] at hlt
  exact absurd (hlt.trans_le hcle) (lt_irrefl _)

/-- Filling a later bucket keeps what the walk covers. -/
theorem Covers.fill (hs : s.Lawful) (h : Covers s start laid w) {k : κ}
    (hlt : ∀ p, w.previous = some p → p < k) (r : Record) :
    Covers s start (laid ++ [(k, r)]) (s.fill w k r) := by
  have hg := Scale.isGap_gapBefore hs w.cursor k
  have hold : ∀ slot ∈ w.slots, slot.bucket < k := by
    intro slot hslot
    obtain ⟨p, hp, hle⟩ := h.le_previous slot hslot
    exact hle.trans_lt (hlt p hp)
  constructor
  · simp [Scale.fill]
  · rfl
  · rfl
  · simp only [Scale.fill, List.map_cons, List.map_append, List.map_reverse]
    refine List.pairwise_cons.mpr ⟨?_, List.pairwise_append.mpr ⟨?_, h.decreasing, ?_⟩⟩
    · intro b hb
      rcases List.mem_append.mp hb with hb | hb
      · obtain ⟨slot, hslot, rfl⟩ := List.mem_map.mp (List.mem_reverse.mp hb)
        exact hg.inside slot hslot
      · obtain ⟨slot, hslot, rfl⟩ := List.mem_map.mp hb
        exact hold slot hslot
    · exact List.pairwise_reverse.mpr hg.increasing
    · intro b hb b' hb'
      obtain ⟨slot, hslot, rfl⟩ := List.mem_map.mp (List.mem_reverse.mp hb)
      obtain ⟨other, hother, rfl⟩ := List.mem_map.mp hb'
      obtain ⟨c, hc, hle⟩ := hg.from_cursor slot hslot
      exact (h.lt_cursor hs hc other hother).trans_le hle
  · intro slot hslot
    simp only [Scale.fill, List.mem_cons, List.mem_append, List.mem_reverse] at hslot
    rw [latestIn_append]
    rcases hslot with rfl | hslot | hslot
    · simp
    · rw [if_neg (hg.inside slot hslot).ne', h.latestIn_gap hs hg slot hslot]
      exact hg.empty slot hslot
    · rw [if_neg (hold slot hslot).ne']
      exact h.record_eq slot hslot
  · intro e he
    simp only [Scale.fill, List.map_cons, List.map_append, List.mem_cons, List.mem_append]
    rcases List.mem_append.mp he with he | he
    · exact .inr (.inr (h.mem e he))
    · rw [List.mem_singleton.mp he]
      exact .inl rfl

/-- Overwriting the latest slot keeps what the walk covers. -/
theorem Covers.overwrite (h : Covers s start laid w) {k : κ} (hk : w.previous = some k)
    (r : Record) : Covers s start (laid ++ [(k, r)]) (w.overwrite r) := by
  obtain ⟨slots, cursor, previous⟩ := w
  subst hk
  cases slots with
  | nil => cases h.head_eq
  | cons first earlier =>
    have hfirst : first.bucket = k := Option.some.inj h.head_eq
    have hdec := List.pairwise_cons.mp h.decreasing
    constructor
    · simp [Walk.overwrite]
    · exact h.cursor_eq
    · exact h.head_eq
    · exact h.decreasing
    · intro slot hslot
      rw [latestIn_append]
      rcases List.mem_cons.mp hslot with rfl | hslot
      · simp [hfirst]
      · have hlt : slot.bucket < k := hfirst ▸ hdec.1 _ (List.mem_map_of_mem hslot)
        rw [if_neg hlt.ne']
        exact h.record_eq slot (List.mem_cons_of_mem _ hslot)
    · intro e he
      rcases List.mem_append.mp he with he | he
      · exact h.mem e he
      · rw [List.mem_singleton.mp he]
        exact List.mem_cons.mpr (.inl hfirst.symm)

end Walk

namespace Scale

variable {s : Scale κ} {start : κ} {policy : DuplicatePolicy}

/-- One step: a record whose bucket follows the bucket before it is laid. -/
theorem lay_of_follows (hs : s.Lawful) {laid : List (κ × Record)} {w : Walk κ}
    (h : w.Covers s start laid) {k : κ} (hk : ∀ p, w.previous = some p → policy.Follows p k)
    (position : ℕ) (r : Record) :
    ∃ w', s.lay policy position w k r = .ok w' ∧ w'.Covers s start (laid ++ [(k, r)]) := by
  unfold lay
  cases hp : w.previous with
  | none => exact ⟨_, rfl, h.fill hs (by simp [hp]) r⟩
  | some p =>
    simp only [hs.before_iff]
    rcases hk p hp with hlt | ⟨rfl, rfl⟩
    · rw [if_neg (not_lt.mpr hlt.le), if_pos hlt]
      exact ⟨_, rfl, h.fill hs (fun q hq => Option.some.inj (hp.symm.trans hq) ▸ hlt) r⟩
    · rw [if_neg (lt_irrefl p), if_neg (lt_irrefl p)]
      exact ⟨_, rfl, h.overwrite hp r⟩

/-- What one step can do: fill a later bucket, or overwrite the slot of the bucket that it is in. -/
theorem lay_cases (hs : s.Lawful) {position : ℕ} {w w' : Walk κ} {k : κ} {r : Record}
    (h : s.lay policy position w k r = .ok w') :
    (w' = s.fill w k r ∧ ∀ p, w.previous = some p → p < k) ∨
      (w' = w.overwrite r ∧ policy = .lastWins ∧ w.previous = some k) := by
  unfold lay at h
  cases hp : w.previous with
  | none =>
    simp only [hp, Except.ok.injEq] at h
    exact .inl ⟨h.symm, by simp⟩
  | some p =>
    simp only [hp, hs.before_iff] at h
    split_ifs at h with hearlier hlater
    · rw [Except.ok.injEq] at h
      refine .inl ⟨h.symm, ?_⟩
      rintro q ⟨⟩
      exact hlater
    · have hpk : p = k := le_antisymm (not_lt.mp hearlier) (not_lt.mp hlater)
      cases policy with
      | reject => cases h
      | lastWins =>
        rw [Except.ok.injEq] at h
        exact .inr ⟨h.symm, rfl, congrArg some hpk⟩

theorem Lawful.label_injective (hs : s.Lawful) {a b : κ} (h : s.label a = s.label b) : a = b := by
  have hnot : ∀ {x y : κ}, s.label x = s.label y → ¬ x < y := by
    intro x y hxy hlt
    have hself := (hs.label_lt x y).mpr hlt
    rw [hxy] at hself
    exact lt_irrefl y ((hs.label_lt y y).mp hself)
  exact le_antisymm (not_lt.mp (hnot h.symm)) (not_lt.mp (hnot h))

/-- One step: a record whose bucket does not follow is refused. -/
theorem lay_of_misplaced (hs : s.Lawful) {w : Walk κ} {p k : κ} (hp : w.previous = some p)
    {position : ℕ} {e : AlignError} (h : Misplaced policy position (s.label p) (s.label k) e)
    (r : Record) : s.lay policy position w k r = .error e := by
  simp only [lay, hp, hs.before_iff]
  cases h with
  | earlier h => rw [if_pos ((hs.label_lt k p).mp h)]
  | again hpol h =>
    rw [hs.label_injective h, if_neg (lt_irrefl p), if_neg (lt_irrefl p), hpol]

theorem exists_misplaced (hs : s.Lawful) {a b : κ} (h : ¬ policy.Follows a b) (position : ℕ) :
    ∃ e, Misplaced policy position (s.label a) (s.label b) e := by
  simp only [DuplicatePolicy.Follows, not_or, not_lt] at h
  rcases h.1.lt_or_eq with hlt | heq
  · exact ⟨_, .earlier ((hs.label_lt b a).mpr hlt)⟩
  · cases policy with
    | lastWins => exact absurd ⟨rfl, heq.symm⟩ h.2
    | reject => exact ⟨_, .again rfl (congrArg s.label heq)⟩

omit [LinearOrder κ] in
theorem layFrom_append (position : ℕ) (w : Walk κ) (xs ys : List (κ × Record)) :
    s.layFrom policy position w (xs ++ ys) =
      s.layFrom policy position w xs >>= fun w' =>
        s.layFrom policy (position + xs.length) w' ys := by
  induction xs generalizing position w with
  | nil => rfl
  | cons x xs ih =>
    obtain ⟨k, r⟩ := x
    simp only [List.cons_append, layFrom, List.length_cons]
    cases s.lay policy position w k r with
    | error e => rfl
    | ok w' =>
      have hsum : position + 1 + xs.length = position + (xs.length + 1) := by omega
      have hh := ih (position + 1) w'
      rw [hsum] at hh
      exact hh

/-- A run over records whose buckets follow one another lays them all. -/
theorem layFrom_of_isChain (hs : s.Lawful) (start : κ) {laid : List (κ × Record)}
    (h : (laid.map (·.1)).IsChain policy.Follows) :
    ∃ w, s.layFrom policy 0 (.fromStart start) laid = .ok w ∧ w.Covers s start laid := by
  induction laid using List.reverseRecOn with
  | nil => exact ⟨_, rfl, Walk.covers_fromStart s start⟩
  | append_singleton laid e ih =>
    obtain ⟨k, r⟩ := e
    rw [List.map_append, List.map_singleton] at h
    obtain ⟨w, hw, hc⟩ := ih h.left_of_append
    have hk : ∀ p, w.previous = some p → policy.Follows p k := by
      intro p hp
      rw [hc.previous_eq, ← List.getLast?_map] at hp
      exact (List.isChain_append.mp h).2.2 p hp k rfl
    obtain ⟨w', hlay, hc'⟩ := lay_of_follows hs hc hk laid.length r
    refine ⟨w', ?_, hc'⟩
    simp only [layFrom_append, hw, layFrom, Nat.zero_add, Except.ok_bind, hlay]

/-- A run ends with the first record whose bucket does not follow. -/
theorem layFrom_of_misplaced (hs : s.Lawful) (start : κ) {laid : List (κ × Record)} {i : ℕ}
    {p k : κ} (hp : (laid.map (·.1))[i]? = some p)
    (hk : (laid.map (·.1))[i + 1]? = some k)
    (hbefore : ((laid.map (·.1)).take (i + 1)).IsChain policy.Follows) {e : AlignError}
    (h : Misplaced policy (i + 1) (s.label p) (s.label k) e) :
    s.layFrom policy 0 (.fromStart start) laid = .error e := by
  rw [← List.map_take] at hbefore
  obtain ⟨w, hw, hc⟩ := layFrom_of_isChain hs start hbefore
  have hprevious : w.previous = some p := by
    rw [hc.previous_eq, ← List.getLast?_map, List.map_take, List.getLast?_take,
      if_neg (Nat.succ_ne_zero i), Nat.add_sub_cancel, hp]
    rfl
  rw [List.getElem?_map, Option.map_eq_some_iff] at hk
  obtain ⟨x, hx, rfl⟩ := hk
  obtain ⟨hi, rfl⟩ := List.getElem?_eq_some_iff.mp hx
  have hlength : (laid.take (i + 1)).length = i + 1 := by
    rw [List.length_take]
    omega
  rw [← List.take_append_drop (i + 1) laid, List.drop_eq_getElem_cons hi, layFrom_append, hw,
    hlength]
  simp only [Except.ok_bind, layFrom, Nat.zero_add, lay_of_misplaced hs hprevious h,
    Except.error_bind]

end Scale

/-- The slots of an axis on which records with their buckets are laid out. -/
structure LaidOut (laid : List (κ × Record)) (slots : List (Slot κ)) : Prop where
  increasing : (slots.map (·.bucket)).Pairwise (· < ·)
  record_eq : ∀ slot ∈ slots, slot.record = latestIn laid slot.bucket
  mem : ∀ e ∈ laid, e.1 ∈ slots.map (·.bucket)

theorem Walk.Covers.laidOut {s : Scale κ} {start : κ} {laid : List (κ × Record)} {w : Walk κ}
    (hs : s.Lawful) (h : w.Covers s start laid) (last : κ) :
    LaidOut laid (s.finish w last) := by
  have hg := Scale.isGap_gapUpTo hs w.cursor last
  constructor
  · simp only [Scale.finish, List.map_append, List.map_reverse]
    refine List.pairwise_append.mpr ⟨List.pairwise_reverse.mpr h.decreasing, hg.increasing, ?_⟩
    intro b hb b' hb'
    obtain ⟨slot, hslot, rfl⟩ := List.mem_map.mp (List.mem_reverse.mp hb)
    obtain ⟨other, hother, rfl⟩ := List.mem_map.mp hb'
    obtain ⟨c, hc, hle⟩ := hg.from_cursor other hother
    exact (h.lt_cursor hs hc slot hslot).trans_le hle
  · intro slot hslot
    rcases List.mem_append.mp hslot with hslot | hslot
    · exact h.record_eq slot (List.mem_reverse.mp hslot)
    · rw [hg.empty slot hslot, h.latestIn_gap hs hg slot hslot]
  · intro e he
    simp only [Scale.finish, List.map_append, List.map_reverse, List.mem_append, List.mem_reverse]
    exact .inl (h.mem e he)

end

end Meteogram
