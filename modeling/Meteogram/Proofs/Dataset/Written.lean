import Meteogram.Dataset
import Meteogram.Proofs.Record.Written

/-!
# Written datasets

A dataset that was read is written so that it is read again as itself, but for the fractions of
seconds in its times. Whatever the text that it was read from looked like, the text that is written
is then always the same.
-/
namespace Meteogram

open Json

namespace Period

theorem ofName?_name (p : Period) : ofName? p.name = some p := by
  cases p <;> rfl

theorem decode_null (depth : ℕ) (p : Period) : decode depth .null ≠ .ok p := by
  rintro ⟨⟩

theorem rereads_toJson (depth : ℕ) (p : Period) : Rereads decode depth p.toJson p := by
  refine ⟨.text (some p.name), reads_text p.name, ?_⟩
  simp only [decode, Decoder.string, Tree.textOf, Except.ok_bind, ofName?_name]

end Period

namespace Dataset

variable {d : Dataset} {text : String}

/-- The dataset as it is written: its times without the fractions of their seconds. -/
def withoutFractions (d : Dataset) : Dataset :=
  ⟨d.lower.map RecordTime.withoutFraction, d.upper.map RecordTime.withoutFraction, d.unit,
    d.data.map Record.withoutFraction⟩

/-- The times that a dataset has: those of its window and of its records. -/
def times (d : Dataset) : List RecordTime :=
  d.lower.toList ++ d.upper.toList ++ d.data.map (·.time)

theorem toJson_eq (d : Dataset) : d.toJson = .object [
    ("from", (d.lower.map RecordTime.toJson).getD .null),
    ("to", (d.upper.map RecordTime.toJson).getD .null),
    ("unit", (d.unit.map Period.toJson).getD .null),
    ("data", .array (d.data.map Record.toJson))] := by
  obtain ⟨lower, upper, unit, data⟩ := d
  cases lower <;> cases upper <;> cases unit <;> rfl

theorem toJson_withoutFractions (d : Dataset) : d.withoutFractions.toJson = d.toJson := by
  have htime : RecordTime.toJson ∘ RecordTime.withoutFraction = RecordTime.toJson :=
    funext RecordTime.toJson_withoutFraction
  have hrecord : Record.toJson ∘ Record.withoutFraction = Record.toJson :=
    funext Record.toJson_withoutFraction
  simp only [toJson_eq, withoutFractions, Option.map_map, List.map_map, htime, hrecord]

theorem withoutFractions_eq_self (h : ∀ t ∈ d.times, t.fraction = 0) : d.withoutFractions = d := by
  simp only [times, List.forall_mem_append, Option.mem_toList, List.forall_mem_map,
    ← RecordTime.withoutFraction_eq_self_iff] at h
  obtain ⟨⟨hlower, hupper⟩, hdata⟩ := h
  have hoption (o : Option RecordTime) (ho : ∀ t ∈ o, t.withoutFraction = t) :
      o.map RecordTime.withoutFraction = o := by
    cases o with
    | none => rfl
    | some t => exact congrArg some (ho t rfl)
  have hrecords : d.data.map Record.withoutFraction = d.data := by
    refine (List.map_congr_left fun r hr => ?_).trans (List.map_id _)
    rw [Record.withoutFraction, hdata r hr]
    rfl
  rw [withoutFractions, hoption d.lower hlower, hoption d.upper hupper, hrecords]

/-- The members of a dataset are read in the order in which they are written. -/
theorem decode_object {depth : ℕ} {lower upper unit data : Tree} (hdepth : 1 < depth)
    (hlower : Decoder.optional RecordTime.decode (depth - 1) lower = .ok d.lower)
    (hupper : Decoder.optional RecordTime.decode (depth - 1) upper = .ok d.upper)
    (hunit : Decoder.optional Period.decode (depth - 1) unit = .ok d.unit)
    (hdata : Decoder.list Record.decode (depth - 1) data = .ok d.data) :
    decode depth (.object [(some "from", lower), (some "to", upper), (some "unit", unit),
      (some "data", data)] none) = .ok d := by
  have hfrom : members.member ⟨none, none, none, none⟩ "from" (depth - 1) lower =
      .ok (some ⟨some d.lower, none, none, none⟩) := by
    simp only [members, Decoder.once_none hlower, Except.ok_bind]
    rfl
  have hto : members.member ⟨some d.lower, none, none, none⟩ "to" (depth - 1) upper =
      .ok (some ⟨some d.lower, some d.upper, none, none⟩) := by
    simp only [members, Decoder.once_none hupper, Except.ok_bind]
    rfl
  have hperiod : members.member ⟨some d.lower, some d.upper, none, none⟩ "unit" (depth - 1) unit =
      .ok (some ⟨some d.lower, some d.upper, some d.unit, none⟩) := by
    simp only [members, Decoder.once_none hunit, Except.ok_bind]
    rfl
  have hrecords : members.member ⟨some d.lower, some d.upper, some d.unit, none⟩ "data" (depth - 1)
      data = .ok (some ⟨some d.lower, some d.upper, some d.unit, some d.data⟩) := by
    simp only [members, Decoder.once_none hdata, Except.ok_bind]
    rfl
  rw [decode, Decoder.struct, Tree.enter, if_neg (not_le.mpr hdepth), Except.ok_bind,
    Decoder.members_cons hfrom, Decoder.members_cons hto, Decoder.members_cons hperiod,
    Decoder.members_cons hrecords]
  rfl

/-- A dataset that was written is read as it was written. -/
theorem rereads_toJson (h : ∀ r ∈ d.data, r.IsWritable)
    (hback : ∀ r ∈ d.data, ∀ e ∈ r.fields.entries, ∀ x, e.2 = some x → ReadsBack x) :
    Rereads decode depthLimit d.toJson d.withoutFractions := by
  obtain ⟨lower, hlower, hlower'⟩ : Rereads (Decoder.optional RecordTime.decode) 127
      ((d.lower.map RecordTime.toJson).getD .null) d.withoutFractions.lower :=
    .optional (RecordTime.decode_null 127) (RecordTime.rereads_toJson 127)
  obtain ⟨upper, hupper, hupper'⟩ : Rereads (Decoder.optional RecordTime.decode) 127
      ((d.upper.map RecordTime.toJson).getD .null) d.withoutFractions.upper :=
    .optional (RecordTime.decode_null 127) (RecordTime.rereads_toJson 127)
  obtain ⟨unit, hunit, hunit'⟩ : Rereads (Decoder.optional Period.decode) 127
      ((d.unit.map Period.toJson).getD .null) (d.unit.map id) :=
    .optional (Period.decode_null 127) (Period.rereads_toJson 127)
  obtain ⟨data, hdata, hdata'⟩ : Rereads (Decoder.list Record.decode) 127
      (.array (d.data.map Record.toJson)) d.withoutFractions.data := by
    refine .list (by decide) ?_
    rw [withoutFractions, List.forall₂_map_left_iff, List.forall₂_map_right_iff, List.forall₂_same]
    exact fun r hr => Record.rereads_toJson (by decide) (h r hr) (hback r hr)
  rw [Option.map_id] at hunit'
  refine ⟨.object [(some "from", lower), (some "to", upper), (some "unit", unit),
    (some "data", data)] none, ?_, decode_object (by decide) hlower' hupper' hunit' hdata'⟩
  rw [toJson_eq]
  exact reads_object (.cons ⟨rfl, hlower⟩ (.cons ⟨rfl, hupper⟩ (.cons ⟨rfl, hunit⟩
    (.cons ⟨rfl, hdata⟩ .nil))))

/-! ### Datasets that were read -/

/-- A member leaves only records that were read. -/
theorem isWritable_of_member {s s' : Draft} {key : String} {depth : ℕ} {v : Tree}
    (hs : ∀ records ∈ s.data, ∀ r ∈ records, r.IsWritable)
    (h : members.member s key depth v = .ok (some s')) :
    ∀ records ∈ s'.data, ∀ r ∈ records, r.IsWritable := by
  simp only [members] at h
  split at h
  · rw [Except.bind_eq_ok] at h
    obtain ⟨lower, -, h⟩ := h
    cases h
    exact hs
  · rw [Except.bind_eq_ok] at h
    obtain ⟨upper, -, h⟩ := h
    cases h
    exact hs
  · rw [Except.bind_eq_ok] at h
    obtain ⟨unit, -, h⟩ := h
    cases h
    exact hs
  · rw [Except.bind_eq_ok] at h
    obtain ⟨data, hdata, h⟩ := h
    obtain ⟨records, rfl, hlist⟩ := Decoder.exists_of_once hdata
    cases h
    rintro _ ⟨⟩
    exact Decoder.forall_mem_of_list (fun _ _ _ => Record.isWritable_of_decode) hlist
  · cases h

theorem isWritable_of_ofItems {items items' : Decoder.Items}
    (h : ofItems items = .ok (d, items')) : ∀ r ∈ d.data, r.IsWritable := by
  simp only [ofItems, Except.bind_eq_ok] at h
  obtain ⟨⟨lower, items₁⟩, -, ⟨upper, items₂⟩, -, ⟨unit, items₃⟩, -, ⟨data, items₄⟩, hdata, h⟩ := h
  cases h
  cases data with
  | none => exact List.forall_mem_nil _
  | some records =>
    obtain ⟨t, hlist⟩ := Decoder.exists_of_next? hdata
    exact Decoder.forall_mem_of_list (fun _ _ _ => Record.isWritable_of_decode) hlist

theorem isWritable_of_decode {depth : ℕ} {t : Tree} (h : decode depth t = .ok d) :
    ∀ r ∈ d.data, r.IsWritable := by
  cases t with
  | object ms ending =>
    simp only [decode, Decoder.struct, Except.bind_eq_ok] at h
    obtain ⟨inner, -, s, hmembers, -, -, h⟩ := h
    cases h
    have hdata := Decoder.of_members (fun _ _ _ _ _ => isWritable_of_member) hmembers
      (by rintro records ⟨⟩)
    cases hs : s.data with
    | none => exact List.forall_mem_nil _
    | some records => exact hdata records hs
  | array items ending =>
    simp only [decode, Decoder.struct, Except.bind_eq_ok] at h
    obtain ⟨inner, -, ⟨d', items'⟩, hitems, -, -, h⟩ := h
    cases h
    exact isWritable_of_ofItems hitems
  | _ => exact (Tree.mismatch_ne_ok "struct Dataset" _ d h).elim

theorem isWritable_of_ofJson (h : ofJson text = .ok d) : ∀ r ∈ d.data, r.IsWritable := by
  simp only [ofJson, Decoder.run, Except.bind_eq_ok] at h
  obtain ⟨d', hd, h⟩ := h
  split_ifs at h with htrailing
  · cases h
  · cases h
    exact isWritable_of_decode hd

/-- A dataset that was read from any text is written so that it is read again, with its times as
they are written. What is read is written alike, and without fractions in its times the dataset is
the same. -/
theorem ofJson_render_toJson (h : ofJson text = .ok d)
    (hback : ∀ r ∈ d.data, ∀ field x, r.get field = some x → x.isFinite = true → ReadsBack x) :
    ofJson d.toJson.render = .ok d.withoutFractions ∧
    (ofJson d.toJson.render).map (·.toJson.render) = .ok d.toJson.render ∧
    ((∀ t ∈ d.times, t.fraction = 0) → ofJson d.toJson.render = .ok d) := by
  have hwritable := isWritable_of_ofJson h
  have hread : ofJson d.toJson.render = .ok d.withoutFractions := by
    refine (rereads_toJson hwritable fun r hr e he x hx => ?_).run_render
    have hget : r.get e.1 = some x := Fields.get_eq_some_iff.mpr (hx ▸ he)
    exact hback r hr e.1 x hget ((hwritable r hr).isFinite e he x hx)
  refine ⟨hread, ?_, fun hfraction => ?_⟩
  · rw [hread, ← toJson_withoutFractions]
    rfl
  · rw [hread, withoutFractions_eq_self hfraction]

/-- A leap second with a fraction, a year before zero, a number as a time, and a field without a
value, in a text with other members and another order of them than are written. -/
theorem ofJson_render_toJson_of_leap_second :
    let text := "\x7b\"data\":[" ++
      "\x7b\"wind\":2,\"time\":\" 2016-12-31T23:59:60.25Z\",\"rain\":null\x7d," ++
      "\x7b\"time\":-5,\"rain\":1.5\x7d]," ++
      "\"unit\":\" Hour\",\"to\":\"-0044-03-15\",\"at\":[]\x7d"
    let d : Dataset := ⟨none, some (.instant ⟨-63549360000, 0, by decide, by decide, by decide⟩),
      some .hour,
      [⟨.instant ⟨1483228799, 1250000000, by decide, by decide, by decide⟩,
          ⟨[("rain", none), ("wind", some 2)], by decide⟩⟩,
        ⟨.number (-5), ⟨[("rain", some 1.5)], by decide⟩⟩]⟩
    ofJson text = .ok d ∧
      (∀ r ∈ d.data, ∀ field x, r.get field = some x → x.isFinite = true → ReadsBack x) ∧
      d.toJson.render =
        "\x7b\"from\":null,\"to\":\"-0044-03-15T00:00:00\",\"unit\":\"hour\",\"data\":[" ++
        "\x7b\"time\":\"2016-12-31T23:59:60\",\"rain\":null,\"wind\":2.0\x7d," ++
        "\x7b\"time\":-5,\"rain\":1.5\x7d]\x7d" ∧
      ofJson d.toJson.render = .ok d.withoutFractions ∧ d.withoutFractions ≠ d := by
  intro text d
  have h : ofJson text = .ok d := by decide +kernel
  have hback : ∀ r ∈ d.data, ∀ field x, r.get field = some x → x.isFinite = true →
      ReadsBack x := by
    have htwo : ReadsBack 2 :=
      ⟨⟨false, ['2'], ['0'], none, true⟩, by decide +kernel, by decide +kernel⟩
    have honeHalf : ReadsBack 1.5 :=
      ⟨⟨false, ['1'], ['5'], none, true⟩, by decide +kernel, by decide +kernel⟩
    intro r hr field x hx _
    have hmem : (field, some x) ∈ r.fields.entries := Fields.get_eq_some_iff.mp hx
    simp only [d, List.mem_cons, List.not_mem_nil, or_false] at hr
    rcases hr with rfl | rfl
    · obtain ⟨-, rfl⟩ : field = "wind" ∧ x = 2 := by simpa using hmem
      exact htwo
    · obtain ⟨-, rfl⟩ : field = "rain" ∧ x = 1.5 := by simpa using hmem
      exact honeHalf
  obtain ⟨hread, -, -⟩ := ofJson_render_toJson h hback
  exact ⟨h, hback, by decide +kernel, hread, by decide +kernel⟩

end Dataset

end Meteogram
