import Meteogram.Json.Tree
import Meteogram.Proofs.Json.Literal

/-!
# Trees of written values

The text of a value is read as one tree wherever a value may stand: a tree of the trees of its items
and members, in their order. As the text of a document it is this tree, and nothing trails.
-/
namespace Meteogram.Json

open Token (run)

/-- A text is read as a tree wherever a value may stand. -/
def Reads (cs : List Char) (t : Tree) : Prop :=
  ∀ rest frames expected, Delimited rest → expected = .value ∨ expected = .itemOrEnd →
    Tree.build (run .between (cs ++ rest)) frames expected =
      Tree.complete t (run .between rest) frames (Tree.build (run .between rest))

variable {cs : List Char} {t : Tree}

theorem Reads.document (h : Reads cs t) : Document.ofChars cs = ⟨t, false⟩ := by
  have hread := h [] [] .value (by rintro c ⟨⟩) (.inl rfl)
  rw [List.append_nil] at hread
  exact hread

theorem delimited_cons {c : Char} (h : c = ',' ∨ c = ']' ∨ c = '\x7d') (cs : List Char) :
    Delimited (c :: cs) := by
  rintro d ⟨⟩
  exact h

/-! ### Values without parts -/

theorem reads_null : Reads Value.null.chars .null := by
  intro rest frames expected _ hvalue
  rcases hvalue with rfl | rfl <;> rfl

theorem reads_text (s : String) : Reads (Value.text s).chars (.text (some s)) := by
  intro rest frames expected _ hvalue
  rw [Value.chars, Token.run_textChars]
  rcases hvalue with rfl | rfl <;> rfl

theorem reads_number {l : Literal} (h : Token.ofChars cs = [.number l]) :
    Reads cs (.number l) := by
  intro rest frames expected hrest hvalue
  rw [Token.run_append_of_number h hrest]
  rcases hvalue with rfl | rfl <;> rfl

theorem reads_integer (n : ℤ) : Reads (Value.integer n).chars (.number (.ofInt n)) := by
  rw [Value.chars]
  exact reads_number (Token.ofChars_signed n)

/-! ### Arrays -/

theorem itemsChars_cons_cons (v v' : Value) (vs : List Value) :
    Value.itemsChars (v :: v' :: vs) = v.chars ++ ',' :: Value.itemsChars (v' :: vs) := by
  rw [Value.itemsChars]
  exact List.cons_ne_nil v' vs

theorem build_itemsChars {vs : List Value} {ts : List Tree}
    (h : List.Forall₂ (fun v t => Reads v.chars t) vs ts) {expected : Tree.Expected}
    (hexpected : expected = .itemOrEnd ∨ expected = .value ∧ vs ≠ []) (done : List Tree)
    (frames : List Tree.Frame) (rest : List Char) :
    Tree.build (run .between (Value.itemsChars vs ++ rest)) (.array done :: frames) expected =
      Tree.complete (.array (done.reverse ++ ts) none) (run .between rest) frames
        (Tree.build (run .between rest)) := by
  induction h generalizing done expected with
  | nil =>
    obtain rfl : expected = .itemOrEnd := by simpa using hexpected
    rw [List.append_nil]
    rfl
  | @cons v t vs ts hv hvs ih =>
    have hvalue : expected = .value ∨ expected = .itemOrEnd := hexpected.symm.imp_left And.left
    cases hvs with
    | nil =>
      rw [Value.itemsChars, List.append_assoc, List.singleton_append,
        hv _ _ _ (delimited_cons (.inr (.inl rfl)) rest) hvalue]
      change Tree.complete (.array (t :: done).reverse none) _ _ _ = _
      rw [List.reverse_cons]
      rfl
    | @cons v' t' vs ts hv' hvs =>
      rw [itemsChars_cons_cons, List.append_assoc, List.cons_append,
        hv _ _ _ (delimited_cons (.inl rfl) _) hvalue]
      change Tree.build (run .between (Value.itemsChars (v' :: vs) ++ rest))
        (.array (t :: done) :: frames) .value = _
      rw [ih (.inr ⟨rfl, List.cons_ne_nil _ _⟩), List.reverse_cons, List.append_assoc,
        List.singleton_append]

/-- The text of an array is read as the array of what its items are read as. -/
theorem reads_array {vs : List Value} {ts : List Tree}
    (h : List.Forall₂ (fun v t => Reads v.chars t) vs ts) :
    Reads (Value.array vs).chars (.array ts none) := by
  intro rest frames expected _ hvalue
  have hitems := build_itemsChars h (.inl rfl) [] frames rest
  rw [Value.chars]
  rcases hvalue with rfl | rfl <;> exact hitems

/-! ### Objects -/

theorem membersChars_cons_cons (m m' : String × Value) (ms : List (String × Value)) :
    Value.membersChars (m :: m' :: ms) =
      textChars m.1 ++ ':' :: m.2.chars ++ ',' :: Value.membersChars (m' :: ms) := by
  rw [Value.membersChars]
  exact List.cons_ne_nil m' ms

/-- The text of a member, up to what follows its value. -/
theorem build_member {v : Value} (h : Reads v.chars t) {expected : Tree.Expected}
    (hexpected : expected = .keyOrEnd ∨ expected = .key) (s : String) {rest : List Char}
    (hrest : Delimited rest) (done : List (Quoted × Tree)) (frames : List Tree.Frame) :
    Tree.build (run .between (textChars s ++ ':' :: v.chars ++ rest)) (.object done :: frames)
        expected =
      Tree.build (run .between rest) (.object ((some s, t) :: done) :: frames) .next := by
  have hvalue := h rest (.member done (some s) :: frames) .value hrest (.inl rfl)
  rw [List.append_assoc, List.cons_append, Token.run_textChars]
  rcases hexpected with rfl | rfl <;> exact hvalue

theorem build_membersChars {ms : List (String × Value)} {ts : List (Quoted × Tree)}
    (h : List.Forall₂ (fun m t => t.1 = some m.1 ∧ Reads m.2.chars t.2) ms ts)
    {expected : Tree.Expected} (hexpected : expected = .keyOrEnd ∨ expected = .key ∧ ms ≠ [])
    (done : List (Quoted × Tree)) (frames : List Tree.Frame) (rest : List Char) :
    Tree.build (run .between (Value.membersChars ms ++ rest)) (.object done :: frames) expected =
      Tree.complete (.object (done.reverse ++ ts) none) (run .between rest) frames
        (Tree.build (run .between rest)) := by
  induction h generalizing done expected with
  | nil =>
    obtain rfl : expected = .keyOrEnd := by simpa using hexpected
    rw [List.append_nil]
    rfl
  | @cons m t ms ts hm hms ih =>
    have hkey : expected = .keyOrEnd ∨ expected = .key := hexpected.imp_right And.left
    obtain ⟨key, v⟩ := m
    obtain ⟨key', t⟩ := t
    obtain ⟨rfl, hv⟩ := hm
    cases hms with
    | nil =>
      rw [Value.membersChars, List.append_assoc, List.singleton_append,
        build_member hv hkey key (delimited_cons (.inr (.inr rfl)) rest)]
      change Tree.complete (.object ((some key, t) :: done).reverse none) _ _ _ = _
      rw [List.reverse_cons]
      rfl
    | @cons m' t' ms ts hm' hms =>
      rw [membersChars_cons_cons, List.append_assoc, List.cons_append,
        build_member hv hkey key (delimited_cons (.inl rfl) _)]
      change Tree.build (run .between (Value.membersChars (m' :: ms) ++ rest))
        (.object ((some key, t) :: done) :: frames) .key = _
      rw [ih (.inr ⟨rfl, List.cons_ne_nil _ _⟩), List.reverse_cons, List.append_assoc,
        List.singleton_append]

/-- The text of an object is read as the object of what its members are read as. -/
theorem reads_object {ms : List (String × Value)} {ts : List (Quoted × Tree)}
    (h : List.Forall₂ (fun m t => t.1 = some m.1 ∧ Reads m.2.chars t.2) ms ts) :
    Reads (Value.object ms).chars (.object ts none) := by
  intro rest frames expected _ hvalue
  have hmembers := build_membersChars h (.inl rfl) [] frames rest
  rw [Value.chars]
  rcases hvalue with rfl | rfl <;> exact hmembers

end Meteogram.Json
