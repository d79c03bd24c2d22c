import Meteogram.Proofs.Json.Token

/-!
# Written integers

The text of an integer is one number, which denotes it as far as 64 bits go.
-/
namespace Meteogram.Json

open Text

/-- The literal that an integer is written as. -/
def Literal.ofInt (n : ℤ) : Literal := ⟨n < 0, digits n.natAbs, [], none, false⟩

namespace Token

theorem run_whole (negative : Bool) {ds : List Char} (h : ∀ c ∈ ds, isDigit c = true)
    (before : List Char) :
    run (.number .whole ⟨negative, before, [], none, false⟩) ds =
      [.number ⟨negative, before ++ ds, [], none, false⟩] := by
  induction ds generalizing before with
  | nil => rw [List.append_nil]; rfl
  | cons c ds ih =>
    rw [List.forall_mem_cons] at h
    have hstep : step (.number .whole ⟨negative, before, [], none, false⟩) c =
        ⟨[], .inl (.number .whole ⟨negative, before ++ [c], [], none, false⟩)⟩ := by
      simp only [step, numberStep, if_pos h.1]
    rw [run_cons hstep, List.nil_append, ih h.2, List.append_assoc, List.singleton_append]

/-- Digits are one number in every state in which a number begins. -/
theorem run_digits (negative : Bool) (n : ℕ) {s : State}
    (h : ∀ c, isDigit c = true → step s c = ⟨[], .inl (.number (if c = '0' then .zero else .whole)
      ⟨negative, [c], [], none, false⟩)⟩) :
    run s (digits n) = [.number ⟨negative, digits n, [], none, false⟩] := by
  obtain ⟨c, ds, hn, hdigit, hzero⟩ := digits_eq_cons n
  have hds : ∀ d ∈ ds, isDigit d = true :=
    fun d hd => isDigit_of_mem_digits (hn ▸ List.mem_cons_of_mem c hd)
  rw [hn, run_cons (h c hdigit), List.nil_append]
  split_ifs with hc
  · rw [hzero hc]
    rfl
  · exact run_whole negative hds [c]

theorem ofChars_signed (n : ℤ) : ofChars (signed n) = [.number (.ofInt n)] := by
  have hstart (c : Char) (hc : isDigit c = true) : step .between c = ⟨[],
      .inl (.number (if c = '0' then .zero else .whole) ⟨false, [c], [], none, false⟩)⟩ := by
    have hspace : isSpace c = false := by
      have hblank := isBlank_of_isDigit hc
      simp only [isSpace, Bool.or_eq_false_iff, beq_eq_false_iff_ne]
      refine ⟨⟨⟨?_, ?_⟩, ?_⟩, ?_⟩ <;> rintro rfl <;> exact absurd hblank (by decide)
    simp only [step, start, hspace, hc]
    rfl
  have hsign (c : Char) (hc : isDigit c = true) :
      step (.number .sign ⟨true, [], [], none, false⟩) c = ⟨[],
        .inl (.number (if c = '0' then .zero else .whole) ⟨true, [c], [], none, false⟩)⟩ := by
    simp only [step, numberStep]
    split_ifs <;> rfl
  unfold signed
  split_ifs with hn
  · have hminus : step .between '-' =
        ⟨[], .inl (.number .sign ⟨true, [], [], none, false⟩)⟩ := rfl
    rw [ofChars, run_cons hminus, List.nil_append, run_digits true n.natAbs hsign, Literal.ofInt,
      decide_eq_true hn]
  · rw [ofChars, run_digits false n.natAbs hstart, Literal.ofInt, decide_eq_false hn]

end Token

theorem le_ofDigitChars (ds : List Char) (n : ℕ) : n ≤ Nat.ofDigitChars 10 ds n := by
  rw [Nat.ofDigitChars_eq_ofDigitChars_zero]
  exact (Nat.le_mul_of_pos_left n (Nat.pow_pos (by decide))).trans (Nat.le_add_right ..)

/-- All digits of a number that fits in 64 bits count. -/
theorem appendDigits_of_lt {ds : List Char} {n : ℕ}
    (h : Nat.ofDigitChars 10 ds n < UInt64.size) :
    appendDigits n ds = (Nat.ofDigitChars 10 ds n, []) := by
  induction ds generalizing n with
  | nil => rw [Nat.ofDigitChars_nil]; rfl
  | cons c ds ih =>
    rw [Nat.ofDigitChars_cons] at h ⊢
    have hlt := (le_ofDigitChars ds _).trans_lt h
    rw [appendDigits, digitValue, if_pos hlt, ih h]

theorem appendDigits_digits {n : ℕ} (h : n < UInt64.size) :
    appendDigits 0 (digits n) = (n, []) := by
  have hn : Nat.ofDigitChars 10 (digits n) 0 = n := Nat.ofDigitChars_ten_toDigits
  rw [appendDigits_of_lt (by rwa [hn]), hn]

/-- The text of a double is one number, which denotes this double. -/
def ReadsBack (x : Float) : Prop :=
  ∃ l, Token.ofChars (floatChars x) = [.number l] ∧ l.number? = some (.float x)

namespace Literal

theorem number?_ofInt_of_nonneg {n : ℤ} (h : 0 ≤ n) (hlt : n < 0x10000000000000000) :
    (ofInt n).number? = some (.natural n.toNat) := by
  have hdigits := appendDigits_digits (show n.toNat < UInt64.size by
    simp only [UInt64.size]; omega)
  have hnat : n.natAbs = n.toNat := by omega
  simp only [number?, ofInt, decide_eq_false (not_lt.mpr h), hnat, hdigits]
  rfl

theorem number?_ofInt_of_neg {n : ℤ} (h : n < 0) (hle : -0x8000000000000000 ≤ n) :
    (ofInt n).number? = some (.negative n) := by
  have hdigits := appendDigits_digits (show n.natAbs < UInt64.size by
    simp only [UInt64.size]; omega)
  have hrange : 0 < n.natAbs ∧ n.natAbs ≤ 0x8000000000000000 := by omega
  have hneg : -(n.natAbs : ℤ) = n := by omega
  simp only [number?, ofInt, hdigits, decide_eq_true h, if_true, if_pos hrange, hneg]
  rfl

end Literal

end Meteogram.Json
