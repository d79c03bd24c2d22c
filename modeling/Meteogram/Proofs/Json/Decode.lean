import Meteogram.Json.Decode
import Meteogram.Proofs.Except
import Meteogram.Proofs.Json.Tree

/-!
# Decoding written values

What a decoder makes of the text of a value, from the values inside it outwards: a list from its
items, an optional value from the value or from `null`, and a whole text from its value.
-/
namespace Meteogram.Json

variable {α : Type} {decode : Decoder α} {depth : ℕ} {v : Value} {a : α}

namespace Tree

theorem mismatch_ne_ok (expected : String) (v : Tree) (a : α) : v.mismatch expected ≠ .ok a := by
  intro h
  rw [mismatch, Except.bind_eq_ok] at h
  obtain ⟨found, -, h⟩ := h
  cases h

theorem numberOf_eq_ok {l : Literal} {n : Number} : numberOf l = .ok n ↔ l.number? = some n := by
  rw [numberOf]
  cases l.number? <;> simp

end Tree

/-- A decoder makes this of the text of a value. -/
def Rereads (decode : Decoder α) (depth : ℕ) (v : Value) (a : α) : Prop :=
  ∃ t, Reads v.chars t ∧ decode depth t = .ok a

namespace Rereads

theorem run_render (h : Rereads decode depthLimit v a) : Decoder.run decode v.render = .ok a := by
  obtain ⟨t, hread, ha⟩ := h
  rw [Decoder.run, Document.ofString, Value.render, String.toList_ofList, hread.document]
  simp only [ha, Except.ok_bind]
  rfl

theorem optional_null : Rereads (Decoder.optional decode) depth .null none :=
  ⟨.null, reads_null, rfl⟩

/-- Where `null` is refused it can stand for nothing. -/
theorem optional_some (hnull : ∀ a, decode depth .null ≠ .ok a) (h : Rereads decode depth v a) :
    Rereads (Decoder.optional decode) depth v (some a) := by
  obtain ⟨t, hread, ha⟩ := h
  refine ⟨t, hread, ?_⟩
  have hoptional : Decoder.optional decode depth t = (decode depth t).map some := by
    cases t with
    | null => exact absurd ha (hnull a)
    | _ => rfl
  rw [hoptional, ha]
  rfl

theorem optional {β : Type} {o : Option β} {write : β → Value} {f : β → α}
    (hnull : ∀ a, decode depth .null ≠ .ok a)
    (h : ∀ b, Rereads decode depth (write b) (f b)) :
    Rereads (Decoder.optional decode) depth ((o.map write).getD .null) (o.map f) := by
  cases o with
  | none => exact optional_null
  | some b => exact optional_some hnull (h b)

theorem list {vs : List Value} {as : List α} (hdepth : 1 < depth)
    (h : List.Forall₂ (Rereads decode (depth - 1)) vs as) :
    Rereads (Decoder.list decode) depth (.array vs) as := by
  obtain ⟨ts, hreads, hdecode⟩ : ∃ ts, List.Forall₂ (fun v t => Reads v.chars t) vs ts ∧
      List.Forall₂ (fun t a => decode (depth - 1) t = .ok a) ts as := by
    induction h with
    | nil => exact ⟨[], .nil, .nil⟩
    | cons hv _ ih =>
      obtain ⟨t, hread, ha⟩ := hv
      obtain ⟨ts, hreads, hdecode⟩ := ih
      exact ⟨t :: ts, .cons hread hreads, .cons ha hdecode⟩
  refine ⟨.array ts none, reads_array hreads, ?_⟩
  rw [Decoder.list, Tree.enter, if_neg (by omega), Except.ok_bind, Except.mapM_eq_ok.mpr hdecode]
  rfl

end Rereads

/-! ### What was decoded -/

namespace Decoder

theorem members_cons {σ : Type} {fields : Fields σ} {s s' : σ} {key : String} {t : Tree}
    (h : fields.member s key depth t = .ok (some s')) (ms : List (Quoted × Tree)) :
    members fields depth s ((some key, t) :: ms) = members fields depth s' ms := by
  rw [members, Tree.textOf, Except.ok_bind, h, Except.ok_bind]

theorem once_none {name : String} {t : Tree} (h : decode depth t = .ok a) :
    once name none decode depth t = .ok (some a) := by
  rw [once, h]
  rfl

theorem exists_of_once {name : String} {before o : Option α} {t : Tree}
    (h : once name before decode depth t = .ok o) : ∃ a, o = some a ∧ decode depth t = .ok a := by
  cases before with
  | some b => cases h
  | none =>
    rw [once] at h
    cases ha : decode depth t with
    | error e => rw [ha] at h; cases h
    | ok a => rw [ha] at h; cases h; exact ⟨a, rfl, rfl⟩

theorem exists_of_next? {items items' : Items} (h : items.next? decode = .ok (some a, items')) :
    ∃ t, decode items.depth t = .ok a := by
  rw [Items.next?] at h
  split at h
  · rw [Except.bind_eq_ok] at h
    obtain ⟨-, -, h⟩ := h
    cases h
  · next t _ _ =>
    rw [Except.bind_eq_ok] at h
    obtain ⟨b, hb, h⟩ := h
    cases h
    exact ⟨t, hb⟩

theorem forall_mem_of_list {P : α → Prop} (hitem : ∀ depth t a, decode depth t = .ok a → P a)
    {t : Tree} {as : List α} (h : list decode depth t = .ok as) : ∀ a ∈ as, P a := by
  cases t with
  | array items ending =>
    simp only [list, Except.bind_eq_ok, Except.mapM_eq_ok] at h
    obtain ⟨inner, -, as', hitems, -, -, h⟩ := h
    cases h
    induction hitems with
    | nil => exact List.forall_mem_nil P
    | cons ha _ ih => exact List.forall_mem_cons.mpr ⟨hitem _ _ _ ha, ih⟩
  | _ => exact (Tree.mismatch_ne_ok "a sequence" _ as h).elim

/-- What every member keeps holds of all that was read. -/
theorem of_members {σ : Type} {fields : Fields σ} {P : σ → Prop}
    (hmember : ∀ s key depth v s', P s → fields.member s key depth v = .ok (some s') → P s')
    {s s' : σ} {ms : List (Quoted × Tree)} (h : members fields depth s ms = .ok s') (hs : P s) :
    P s' := by
  induction ms generalizing s with
  | nil =>
    cases h
    exact hs
  | cons m ms ih =>
    obtain ⟨key, v⟩ := m
    simp only [members, Except.bind_eq_ok] at h
    obtain ⟨name, -, known, hknown, h⟩ := h
    cases known with
    | some s₁ => exact ih h (hmember s name depth v s₁ hs hknown)
    | none =>
      rw [Except.bind_eq_ok] at h
      obtain ⟨-, -, h⟩ := h
      exact ih h hs

end Decoder

end Meteogram.Json
