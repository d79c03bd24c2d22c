import Mathlib.Tactic
import Meteogram.Proofs.Double.Order

/-!
# Values of floats

All numbers of a format are multiples of its smallest one, so that a finite float is an integer when
it is counted in steps of this size. Finite floats are ordered as these integers.
-/
open Float.Model (Format UnpackedFloat)
open Float.Model.UnpackedFloat

namespace Meteogram.Double

/-- The number of smallest steps of a format that a finite float is away from zero. -/
def units (spec : Format) : UnpackedFloat → ℤ
  | .finite s m e _ => s.apply (m * 2 ^ (e - spec.minExponent).toNat : ℕ)
  | .infinity _ | .notANumber | .zero _ => 0

/-- Whether a float is finite and has the exponent that the format has for it. -/
def IsCanonical (spec : Format) : UnpackedFloat → Prop
  | .zero _ => True
  | .finite _ m e _ => m < 2 ^ spec.mantissaBits ∧ spec.minExponent ≤ e ∧
      (e = spec.minExponent ∨ 2 ^ spec.mantissaBitsWithoutImplicit ≤ m)
  | .infinity _ | .notANumber => False

variable {spec : Format} {u v : UnpackedFloat} {m m' : ℕ} {e e' : ℤ}

theorem isCanonical_unpack {b : BitVec spec.numBits} (h : (unpack spec b).isFinite = true) :
    IsCanonical spec (unpack spec b) := by
  have hbias : (spec.exponentBias : ℤ) = 2 ^ (spec.exponentBits - 1) - 1 := by
    rw [Format.exponentBias, Nat.cast_sub Nat.one_le_two_pow]
    push_cast
    rfl
  have hmin : spec.minExponent =
      1 - (spec.exponentBias + spec.mantissaBitsWithoutImplicit : ℤ) := by
    rw [Format.minExponent, Format.mantissaBits, hbias]
    push_cast
    ring
  have hlt : (unpackMantissa b).toNat < 2 ^ spec.mantissaBitsWithoutImplicit :=
    (unpackMantissa b).isLt
  have hpow : 2 ^ spec.mantissaBits = 2 * 2 ^ spec.mantissaBitsWithoutImplicit := by
    rw [Format.mantissaBits, Nat.pow_add, pow_one]
  simp only [unpack] at h ⊢
  split_ifs at h ⊢ with hones hmantissa hzero hmantissa
  · cases h
  · cases h
  · trivial
  · refine ⟨by omega, ?_, .inl ?_⟩
    · rw [hzero, hmin, BitVec.toNat_zero]
      omega
    · rw [hzero, hmin, BitVec.toNat_zero]
      omega
  · have hpos : 0 < (unpackExponent b).toNat :=
      Nat.pos_of_ne_zero fun hnat => hzero (BitVec.eq_of_toNat_eq hnat)
    refine ⟨?_, by omega, .inr ?_⟩
    · exact (1#1 ++ unpackMantissa b).isLt
    · rw [BitVec.toNat_append]
      exact le_trans (by simp [Nat.shiftLeft_eq]) Nat.left_le_or

/-! ### Order -/

/-- A greater exponent makes up for any mantissa, if the format has a smaller one. -/
theorem scaled_lt_scaled (hm : m < 2 ^ spec.mantissaBits) (he : spec.minExponent ≤ e)
    (hm' : e' = spec.minExponent ∨ 2 ^ spec.mantissaBitsWithoutImplicit ≤ m') (h : e < e') :
    m * 2 ^ (e - spec.minExponent).toNat < m' * 2 ^ (e' - spec.minExponent).toNat := by
  have htop := hm'.resolve_left (by omega)
  have hsucc : (e - spec.minExponent).toNat + 1 ≤ (e' - spec.minExponent).toNat := by omega
  have hpow : 2 ^ spec.mantissaBits = 2 ^ spec.mantissaBitsWithoutImplicit * 2 := by
    rw [Format.mantissaBits, Nat.add_comm, pow_succ]
  calc m * 2 ^ (e - spec.minExponent).toNat
      < 2 ^ spec.mantissaBitsWithoutImplicit * 2 * 2 ^ (e - spec.minExponent).toNat := by
        rw [← hpow]
        exact Nat.mul_lt_mul_of_pos_right hm (by positivity)
    _ = 2 ^ spec.mantissaBitsWithoutImplicit * 2 ^ ((e - spec.minExponent).toNat + 1) := by
        rw [mul_assoc, ← pow_succ']
    _ ≤ m' * 2 ^ (e' - spec.minExponent).toNat :=
        Nat.mul_le_mul htop (Nat.pow_le_pow_right (by decide) hsucc)

theorem units_pos (hm : 0 < m) : 0 < units spec (.finite .positive m e hm) := by
  simp only [units, Sign.apply]
  positivity

theorem units_neg (hm : 0 < m) : units spec (.finite .negative m e hm) < 0 := by
  simp only [units, Sign.apply, Left.neg_neg_iff]
  positivity

/-- Of two numbers in the order of exponents and mantissas the first one is smaller. -/
theorem scaled_lt_of_lex (hm : m < 2 ^ spec.mantissaBits) (he : spec.minExponent ≤ e)
    (hm' : e' = spec.minExponent ∨ 2 ^ spec.mantissaBitsWithoutImplicit ≤ m')
    (h : e < e' ∨ e = e' ∧ m < m') :
    m * 2 ^ (e - spec.minExponent).toNat < m' * 2 ^ (e' - spec.minExponent).toNat := by
  rcases h with h | ⟨rfl, h⟩
  · exact scaled_lt_scaled hm he hm' h
  · exact Nat.mul_lt_mul_of_pos_right h (by positivity)

/-- Finite floats are ordered as the integers that they are in steps of their format. -/
theorem units_lt_units (hu : IsCanonical spec u) (hv : IsCanonical spec v)
    (h : rank u < rank v) : units spec u < units spec v := by
  cases u with
  | infinity s => exact hu.elim
  | notANumber => exact hu.elim
  | zero s =>
    cases v with
    | infinity s' => exact hv.elim
    | notANumber => exact hv.elim
    | zero s' => exact absurd h (lt_irrefl _)
    | finite s' m' e' hm' =>
      cases s' with
      | negative => simp [rank, Prod.Lex.toLex_lt_toLex] at h
      | positive => exact units_pos hm'
  | finite s m e hm =>
    cases v with
    | infinity s' => exact hv.elim
    | notANumber => exact hv.elim
    | zero s' =>
      cases s with
      | negative => exact units_neg hm
      | positive => simp [rank, Prod.Lex.toLex_lt_toLex] at h
    | finite s' m' e' hm' =>
      obtain ⟨hlt, hmin, hnormal⟩ := hu
      obtain ⟨hlt', hmin', hnormal'⟩ := hv
      cases s <;> cases s'
      · have hlex : e' < e ∨ e' = e ∧ m' < m := by
          simpa [rank, Prod.Lex.toLex_lt_toLex, eq_comm] using h
        have hscaled := scaled_lt_of_lex hlt' hmin' hnormal hlex
        simp only [units, Sign.apply, neg_lt_neg_iff]
        exact_mod_cast hscaled
      · exact (units_neg hm).trans (units_pos hm')
      · simp [rank, Prod.Lex.toLex_lt_toLex] at h
      · have hlex : e < e' ∨ e = e' ∧ m < m' := by
          simpa [rank, Prod.Lex.toLex_lt_toLex] using h
        have hscaled := scaled_lt_of_lex hlt hmin hnormal' hlex
        simp only [units, Sign.apply]
        exact_mod_cast hscaled

theorem units_congr (hu : IsCanonical spec u) (hv : IsCanonical spec v) (h : rank u = rank v) :
    units spec u = units spec v := by
  cases u with
  | infinity s => exact hu.elim
  | notANumber => exact hu.elim
  | zero s =>
    cases v with
    | infinity s' => exact hv.elim
    | notANumber => exact hv.elim
    | zero s' => rfl
    | finite s' m' e' hm' => cases s' <;> simp [rank] at h
  | finite s m e hm =>
    cases v with
    | infinity s' => exact hv.elim
    | notANumber => exact hv.elim
    | zero s' => cases s <;> simp [rank] at h
    | finite s' m' e' hm' =>
      cases s <;> cases s'
      · obtain ⟨rfl, rfl⟩ : e = e' ∧ m = m' := by simpa [rank] using h
        rfl
      · simp [rank] at h
      · simp [rank] at h
      · obtain ⟨rfl, rfl⟩ : e = e' ∧ m = m' := by simpa [rank] using h
        rfl

/-- A finite float that does not come before another one is no smaller. -/
theorem units_le_units (hu : IsCanonical spec u) (hv : IsCanonical spec v)
    (h : v.lt u = false) : units spec u ≤ units spec v := by
  have hne : ∀ w, IsCanonical spec w → w ≠ .notANumber := by
    rintro w hw rfl
    exact hw
  have hrank : rank u ≤ rank v := by
    by_contra hlt
    rw [lt_iff.mpr ⟨hne v hv, hne u hu, not_le.mp hlt⟩] at h
    cases h
  rcases hrank.lt_or_eq with hlt | heq
  · exact (units_lt_units hu hv hlt).le
  · exact (units_congr hu hv heq).le

end Meteogram.Double
