import Meteogram.Json.Value
import Meteogram.Proofs.Text.Digits

/-!
# Tokens of written values

The text of a value is read as the same tokens wherever it stands. A string ends itself. A number
ends where something follows that cannot continue it, as whatever follows a value inside an array or
an object does; its text on its own therefore says which token it is.
-/
namespace Meteogram.Json

/-- What may follow a value in a written text: nothing, or the next character of an array or object
around it. -/
def Delimited (rest : List Char) : Prop :=
  ∀ c ∈ rest.head?, c = ',' ∨ c = ']' ∨ c = '\x7d'

namespace Token

variable {s s' : State} {c : Char} {cs rest : List Char} {l : Literal}

theorem run_cons {ts : List Token} (h : step s c = ⟨ts, .inl s'⟩) (cs : List Char) :
    run s (c :: cs) = ts ++ run s' cs := by
  rw [run, h]

/-! ### Strings -/

theorem hexValue?_digitChar : ∀ n < 16,
    hexValue? (Nat.digitChar n) = some n ∧ (Nat.digitChar n).utf8Size = 1 := by
  decide

/-- A control character is read from its code unit. -/
theorem run_unit (s : TextState) {n : ℕ} (h : n < 0x20) (tail : List Char) :
    run (.text s) ('\\' :: 'u' :: '0' :: '0' :: Nat.digitChar (n / 16) ::
      Nat.digitChar (n % 16) :: tail) = run (.text (s.push (Char.ofNat n))) tail := by
  obtain ⟨hhigh, hsize⟩ := hexValue?_digitChar (n / 16) (by omega)
  obtain ⟨hlow, hsize'⟩ := hexValue?_digitChar (n % 16) (by omega)
  have hzero : hexValue? '0' = some 0 := rfl
  have hsize₀ : '0'.utf8Size = 1 := rfl
  have hpush : s.pushUnit n = s.push (Char.ofNat n) := by
    rw [TextState.pushUnit, if_neg (by omega), if_neg (by omega)]
  have hn : 16 * (n / 16) + n % 16 = n := Nat.div_add_mod n 16
  simp [run, step, hzero, hsize₀, hhigh, hsize, hlow, hsize', hn, hpush]

/-- A written character is read as itself. -/
theorem run_escapedChars (s : TextState) (c : Char) (tail : List Char) :
    run (.text s) (escapedChars c ++ tail) = run (.text (s.push c)) tail := by
  unfold escapedChars
  split
  · rfl
  · rfl
  · rfl
  · rfl
  · rfl
  · rfl
  · rfl
  · next hquote hsolidus _ _ _ _ _ =>
    split_ifs with hcontrol
    · have hc : Char.ofNat c.toNat = c := Char.ofNat_toNat c
      have hread := run_unit s hcontrol tail
      rw [hc] at hread
      exact hread
    · have hstep : step (.text s) c = ⟨[], .inl (.text (s.push c))⟩ := by
        rw [step, if_neg hquote, if_neg hsolidus, if_neg hcontrol]
      rw [List.singleton_append, run_cons hstep, List.nil_append]

theorem run_flatMap_escapedChars (done cs tail : List Char) :
    run (.text ⟨done, none, false⟩) (cs.flatMap escapedChars ++ tail) =
      run (.text ⟨cs.reverse ++ done, none, false⟩) tail := by
  induction cs generalizing done with
  | nil => rfl
  | cons c cs ih =>
    rw [List.flatMap_cons, List.append_assoc, run_escapedChars, TextState.push]
    simpa using ih (c :: done)

/-- A written string is one token. -/
theorem run_textChars (text : String) (rest : List Char) :
    run .between (textChars text ++ rest) = .text (some text) :: run .between rest := by
  have hquoted : (⟨text.toList.reverse, none, false⟩ : TextState).quoted = some text := by
    simp [TextState.quoted]
  have hopen : step .between '"' = ⟨[], .inl (.text ⟨[], none, false⟩)⟩ := rfl
  have hclose : step (.text ⟨text.toList.reverse, none, false⟩) '"' =
      ⟨[.text (some text)], .inl .between⟩ := by
    rw [step, if_pos rfl, hquoted]
  rw [textChars, List.append_assoc, List.cons_append, run_cons hopen, List.nil_append,
    run_flatMap_escapedChars, List.append_nil, List.singleton_append, run_cons hclose,
    List.singleton_append]

/-! ### Numbers -/

def isNumber : Token → Bool
  | .number _ => true
  | _ => false

/-- States in which what is under way will be no number. -/
inductive State.IsOther : State → Prop
  | text (t : TextState) : IsOther (.text t)
  | escape (t : TextState) : IsOther (.escape t)
  | unit (t : TextState) (seen : ℕ) (value : Option ℕ) : IsOther (.unit t seen value)
  | word (due : Char) (rest : List Char) {token : Token} (h : token.isNumber = false) :
    IsOther (.word due rest token)

/-- Steps that do not lead to a number: the first token to come is another one. -/
inductive Step.IsOther : Step → Prop
  | goOn {s : State} (h : s.IsOther) : IsOther ⟨[], .inl s⟩
  | token {t : Token} (h : t.isNumber = false) (next : State ⊕ Token) : IsOther ⟨[t], next⟩
  | stop {t : Token} (h : t.isNumber = false) : IsOther ⟨[], .inr t⟩

theorem isOther_step (h : s.IsOther) (c : Char) : (step s c).IsOther := by
  cases h with
  | text t =>
    rw [step]
    split_ifs
    · exact .token rfl _
    · exact .goOn (.escape t)
    · exact .stop rfl
    · exact .goOn (.text _)
  | escape t =>
    rw [step]
    split_ifs
    · exact .goOn (.unit _ _ _)
    · cases escaped? c with
      | some e => exact .goOn (.text _)
      | none => exact .stop rfl
  | unit t seen value =>
    rw [step]
    split_ifs
    · exact .goOn (.unit _ _ _)
    · split
      · exact .goOn (.text _)
      · exact .stop rfl
  | word due rest ht =>
    cases rest with
    | nil =>
      simp only [step]
      split_ifs
      · exact .stop rfl
      · exact .token ht _
    | cons next rest =>
      simp only [step]
      split_ifs
      · exact .stop rfl
      · exact .goOn (.word next rest ht)

theorem run_of_isOther_step (h : (step s c).IsOther)
    (hrest : ∀ s' : State, s'.IsOther → ∃ t ts, run s' cs = t :: ts ∧ t.isNumber = false) :
    ∃ t ts, run s (c :: cs) = t :: ts ∧ t.isNumber = false := by
  rw [run]
  generalize step s c = r at h
  cases h with
  | goOn h => exact hrest _ h
  | token h next => cases next <;> exact ⟨_, _, rfl, h⟩
  | stop h => exact ⟨_, _, rfl, h⟩

theorem run_isOther (h : s.IsOther) (cs : List Char) :
    ∃ t ts, run s cs = t :: ts ∧ t.isNumber = false := by
  induction cs generalizing s with
  | nil =>
    cases h with
    | text t => exact ⟨cutText t, [], rfl, rfl⟩
    | escape t => exact ⟨cutText t, [], rfl, rfl⟩
    | unit t seen value => exact ⟨cutText t, [], rfl, rfl⟩
    | word due rest ht => exact ⟨_, [], rfl, rfl⟩
  | cons c cs ih => exact run_of_isOther_step (isOther_step h c) fun _ => ih

/-- A character between tokens: white space begins none, a digit or a minus begins a number, and
anything else does not. -/
theorem start_cases (c : Char) :
    start c = ⟨[], .inl .between⟩ ∨
      (∃ part l, start c = ⟨[], .inl (.number part l)⟩) ∨ (start c).IsOther := by
  unfold start
  split
  · exact .inl rfl
  split
  · exact .inr (.inl ⟨_, _, rfl⟩)
  · refine .inr ?_
    split
    · exact .inr (.token rfl _)
    · exact .inr (.token rfl _)
    · exact .inr (.token rfl _)
    · exact .inr (.token rfl _)
    · exact .inr (.token rfl _)
    · exact .inr (.token rfl _)
    · exact .inr (.goOn (.text _))
    · exact .inl ⟨_, _, rfl⟩
    · exact .inr (.goOn (.word _ _ rfl))
    · exact .inr (.goOn (.word _ _ rfl))
    · exact .inr (.goOn (.word _ _ rfl))
    · exact .inr (.stop rfl)

/-- One step inside a number: it goes on, or is complete before the character, or is malformed. -/
theorem numberStep_cases (part : NumberPart) (l : Literal) (c : Char) :
    (∃ part' l', numberStep part l c = ⟨[], .inl (.number part' l')⟩) ∨
      numberStep part l c = finishNumber l c ∨ numberStep part l c = malformed := by
  cases part <;> simp only [numberStep] <;> split_ifs <;> simp [finishNumber, malformed]

/-- After a complete number nothing that may follow a value goes on with it. -/
theorem numberStep_of_delimiter {part : NumberPart} {l' : Literal}
    (h : finish (.number part l) = [.number l']) (hc : c = ',' ∨ c = ']' ∨ c = '\x7d') :
    l = l' ∧ numberStep part l c = finishNumber l c := by
  cases part <;> simp only [finish, List.cons.injEq, Token.number.injEq, and_true, reduceCtorEq]
    at h
  all_goals
    refine ⟨h, ?_⟩
    rcases hc with rfl | rfl | rfl <;> rfl

theorem run_finishNumber {part : NumberPart} (h : numberStep part l c = finishNumber l c)
    (cs : List Char) : run (.number part l) (c :: cs) = .number l :: run .between (c :: cs) := by
  have hnumber : step (.number part l) c = finishNumber l c := h
  have hbetween : step .between c = start c := rfl
  rw [run, run, hnumber, hbetween, finishNumber]
  cases (start c).next with
  | inl next => rfl
  | inr last => rfl

theorem run_number_ne_nil (part : NumberPart) (l : Literal) (cs : List Char) :
    run (.number part l) cs ≠ [] := by
  induction cs generalizing part l with
  | nil => cases part <;> exact List.cons_ne_nil _ _
  | cons c cs ih =>
    rcases numberStep_cases part l c with ⟨part', l', hstep⟩ | hstep | hstep
    · rw [run_cons (s := .number part l) hstep]
      exact ih part' l'
    · rw [run_finishNumber hstep]
      exact List.cons_ne_nil _ _
    · have hrun : run (.number part l) (c :: cs) = [.broken (.plain .malformed)] := by
        rw [run, show step (.number part l) c = malformed from hstep]
        rfl
      rw [hrun]
      exact List.cons_ne_nil _ _

/-- What has no tokens is white space. -/
theorem run_append_of_nil (h : run .between cs = []) (rest : List Char) :
    run .between (cs ++ rest) = run .between rest := by
  induction cs with
  | nil => rfl
  | cons c cs ih =>
    rcases start_cases c with hstart | ⟨part, l, hstart⟩ | hstart
    · rw [run_cons (s := .between) hstart, List.nil_append] at h
      rw [List.cons_append, run_cons (s := .between) hstart, List.nil_append, ih h]
    · rw [run_cons (s := .between) hstart, List.nil_append] at h
      exact absurd h (run_number_ne_nil part l cs)
    · obtain ⟨t, ts, hrun, -⟩ :=
        run_of_isOther_step (s := .between) hstart fun _ hs => run_isOther hs cs
      rw [hrun] at h
      cases h

theorem run_number_append {part : NumberPart} {l' : Literal}
    (h : run (.number part l) cs = [.number l']) (hrest : Delimited rest) :
    run (.number part l) (cs ++ rest) = .number l' :: run .between rest := by
  induction cs generalizing part l with
  | nil =>
    cases rest with
    | nil => exact h
    | cons c rest =>
      obtain ⟨rfl, hstep⟩ := numberStep_of_delimiter h (hrest c rfl)
      exact run_finishNumber hstep rest
  | cons c cs ih =>
    rcases numberStep_cases part l c with ⟨part', l₁, hstep⟩ | hstep | hstep
    · rw [run_cons (s := .number part l) hstep, List.nil_append] at h
      rw [List.cons_append, run_cons (s := .number part l) hstep, List.nil_append, ih h]
    · rw [run_finishNumber hstep, List.cons.injEq] at h
      obtain ⟨hl, hnil⟩ := h
      rw [List.cons_append, run_finishNumber hstep, hl, ← List.cons_append,
        run_append_of_nil hnil]
    · rw [run, show step (.number part l) c = malformed from hstep] at h
      cases h

/-- A text that is one number on its own is this number wherever a value may stand. -/
theorem run_append_of_number (h : ofChars cs = [.number l]) (hrest : Delimited rest) :
    run .between (cs ++ rest) = .number l :: run .between rest := by
  rw [ofChars] at h
  induction cs with
  | nil => cases h
  | cons c cs ih =>
    rcases start_cases c with hstart | ⟨part, l₀, hstart⟩ | hstart
    · rw [run_cons (s := .between) hstart, List.nil_append] at h
      rw [List.cons_append, run_cons (s := .between) hstart, List.nil_append, ih h]
    · rw [run_cons (s := .between) hstart, List.nil_append] at h
      rw [List.cons_append, run_cons (s := .between) hstart, List.nil_append,
        run_number_append h hrest]
    · obtain ⟨t, ts, hrun, ht⟩ :=
        run_of_isOther_step (s := .between) hstart fun _ hs => run_isOther hs cs
      rw [hrun, List.cons.injEq] at h
      rw [h.1] at ht
      cases ht

end Token

end Meteogram.Json
