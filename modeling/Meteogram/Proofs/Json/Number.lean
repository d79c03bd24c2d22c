import Meteogram.Json.Literal
import Meteogram.Proofs.Double.Finite

/-!
# Numbers that literals denote

Powers of ten are finite doubles, and all but the first are four or more. A literal is scaled by one
or several of them, and what grows too large for a double on the way denotes nothing. Hence every
double that a literal denotes is finite.
-/
open Float.Model (Format UnpackedFloat totalExponent)
open Float.Model.UnpackedFloat

namespace Meteogram.Json

open Double

theorem unpack_powerOfTen {k : ℕ} (h : 22 < k) (h' : k < 308) :
    (powerOfTen k).toModel.unpack = unpack .binary64 (pack .binary64 (roundWithAccuracy .binary64
      (.positive * .positive) (1 <<< 53 * 10 ^ k) (-53 + 0) .exact)) := by
  have hscientific : Float.Model.UnpackedFloat.ofScientific .binary64 1 (k : ℤ) =
      roundWithAccuracy .binary64 (.positive * .positive) (1 <<< 53 * 10 ^ k) (-53 + 0) .exact := by
    rw [Float.Model.UnpackedFloat.ofScientific, dif_neg one_ne_zero,
      if_neg (show ¬(k : ℤ) > 2 ^ Format.binary64.exponentBits by norm_num; omega),
      if_neg (show ¬(k : ℤ) < -(2 ^ Format.binary64.exponentBits + (Nat.log2 1 : ℤ)) by
        norm_num; omega),
      if_pos (Int.natCast_nonneg k)]
    rfl
  have hmodel : (powerOfTen k).toModel = Float.Model.ofScientific 1 k := by
    change (Float.ofScientific 1 false k).toModel = _
    rw [Float.ofScientific, dif_neg (by omega)]
    rfl
  rw [hmodel, Float.Model.ofScientific, hscientific]
  rfl

theorem isFourUp_powerOfTen {k : ℕ} (hpos : 0 < k) (hlt : k < 309) :
    isFourUp (powerOfTen k).toModel.unpack = true := by
  have hsmall : ∀ k < 23, 0 < k → isFourUp (powerOfTen k).toModel.unpack = true := by
    decide +kernel
  have hlast : isFourUp (powerOfTen 308).toModel.unpack = true := by
    decide +kernel
  -- Small powers stand in a table, and the last one is too close to `2 ^ 1023` for the bounds.
  rcases Nat.lt_or_ge 22 k with hlarge | hle
  · rcases Nat.lt_or_ge k 308 with hk | hk
    · have hlow : 2 ^ 56 ≤ 1 <<< 53 * 10 ^ k := by
        calc 2 ^ 56 ≤ 1 <<< 53 * 10 ^ 1 := by decide
          _ ≤ 1 <<< 53 * 10 ^ k := Nat.mul_le_mul_left _ (Nat.pow_le_pow_right (by decide) hpos)
      have hhigh : 1 <<< 53 * 10 ^ k ≤ 2 ^ 1073 := by
        calc 1 <<< 53 * 10 ^ k ≤ 1 <<< 53 * 10 ^ 307 :=
            Nat.mul_le_mul_left _ (Nat.pow_le_pow_right (by decide) (by omega))
          _ ≤ 2 ^ 1073 := by decide +kernel
      have hlog := (Nat.le_log2 (by omega)).mpr hlow
      have hlog' := log2_le_of_le hhigh
      have htotal : totalExponent (1 <<< 53 * 10 ^ k) (-53 + 0) =
          ((1 <<< 53 * 10 ^ k).log2 : ℤ) + 1 + (-53 + 0) := rfl
      obtain ⟨m, e, hm, hround, hlogm, he⟩ := exists_roundWithAccuracy_eq (e := -53 + 0)
        (hlog.trans' (by decide)) (by omega) (.positive * .positive) .exact
      have hbounded := isBounded_roundWithAccuracy (s := .positive * .positive) (e := -53 + 0)
        (m := 1 <<< 53 * 10 ^ k) (by omega) (by decide) .exact
      rw [hround] at hbounded
      rw [unpack_powerOfTen hlarge hk, hround]
      exact isFourUp_unpack_pack hlogm he hbounded
    · rwa [show k = 308 by omega]
  · exact hsmall k (by omega) hpos

theorem isFinite_powerOfTen {k : ℕ} (h : k < 309) : (powerOfTen k).isFinite = true := by
  rcases Nat.eq_zero_or_pos k with rfl | hpos
  · rfl
  · have hfour := isFourUp_powerOfTen hpos h
    change (powerOfTen k).toModel.unpack.isFinite = true
    cases hu : (powerOfTen k).toModel.unpack with
    | finite s m e hm => rfl
    | zero s => rfl
    | infinity s => rw [hu] at hfour; cases hfour
    | notANumber => rw [hu] at hfour; cases hfour

theorem isFinite_scaleDown {x : Float} {k : ℕ} (h : x.isFinite = true) (hk : 0 < k) :
    (scaleDown x k).isFinite = true := by
  induction k using Nat.strong_induction_on generalizing x with
  | _ k ih =>
    rw [scaleDown]
    split_ifs with hsmall hzero
    · exact isFinite_div h (isFourUp_powerOfTen hk (by omega))
    · exact h
    · exact ih (k - 308) (by omega)
        (isFinite_div h (isFourUp_powerOfTen (k := 308) (by decide) (by decide))) (by omega)

theorem isFinite_of_scaleUp? {x y : Float} {k : ℕ} (h : x.isFinite = true)
    (hy : scaleUp? x k = some y) : y.isFinite = true := by
  simp only [scaleUp?] at hy
  split_ifs at hy with hsmall hinf hzero
  · cases hy
    exact isFinite_mul_of_isInf h (isFinite_powerOfTen (by omega)) (by simpa using hinf)
  · cases hy
    exact h

theorem isFinite_of_scale? {x y : Float} {e : ℤ} (h : x.isFinite = true)
    (hy : scale? x e = some y) : y.isFinite = true := by
  simp only [scale?] at hy
  split_ifs at hy with he
  · exact isFinite_of_scaleUp? h hy
  · cases hy
    exact isFinite_scaleDown h (by omega)

namespace Literal

variable {l : Literal} {x : Float}

theorem isFinite_of_float? (h : l.float? = some x) : x.isFinite = true := by
  simp only [float?, Option.map_eq_some_iff] at h
  obtain ⟨y, hscale, rfl⟩ := h
  have hy := isFinite_of_scale? (isFinite_toFloat _) hscale
  split_ifs
  · exact isFinite_neg hy
  · exact hy

/-- A literal denotes no number that a double cannot hold. -/
theorem isFinite_of_number? (h : l.number? = some (.float x)) : x.isFinite = true := by
  have hscaled (hl : l.float?.map Number.float = some (.float x)) : x.isFinite = true := by
    simp only [Option.map_eq_some_iff, Number.float.injEq, exists_eq_right] at hl
    exact isFinite_of_float? hl
  simp only [number?] at h
  by_cases hfloat : (l.hasPoint || l.exponent.isSome) = true
  · rw [if_pos hfloat] at h
    exact hscaled h
  · rw [if_neg hfloat] at h
    rcases hdigits : appendDigits 0 l.whole with ⟨n, _ | ⟨d, ds⟩⟩
    · simp only [hdigits] at h
      split_ifs at h
      · simp only [Option.some.injEq, reduceCtorEq] at h
      · rw [Option.some.injEq, Number.float.injEq] at h
        rw [← h]
        exact isFinite_neg (isFinite_toFloat _)
      · simp only [Option.some.injEq, reduceCtorEq] at h
    · simp only [hdigits] at h
      exact hscaled h

end Literal

end Meteogram.Json
