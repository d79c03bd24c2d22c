import Meteogram.Proofs.Double.Zero

/-!
# Finite doubles

A number with an exponent of at most 971 is packed into a finite double. What is below `2 ^ 1023` is
rounded to such a number: an integer of 64 bits, and a finite double divided by four or more. A
product may be too large for a double, but it is a number.
-/
open Float.Model (Format UnpackedFloat totalExponent)
open Float.Model.UnpackedFloat

namespace Meteogram.Double

/-- A number that is not too large for a double, as far as its exponent shows. -/
def IsBounded : UnpackedFloat → Prop
  | .zero _ => True
  | .finite _ _ e _ => e ≤ 971
  | .infinity _ | .notANumber => False

variable {u u' : UnpackedFloat} {b : BitVec Format.binary64.numBits} {s : Sign} {m : ℕ} {e : ℤ}

/-! ### Packing -/

theorem isFinite_unpack_packComponents {exponent : BitVec 11} {mantissa : BitVec 52}
    (h : exponent ≠ -1#11) :
    (unpack .binary64 (packComponents .binary64 s exponent mantissa)).isFinite = true := by
  simp only [unpack, unpackExponent_packComponents, unpackMantissa_packComponents]
  rw [if_neg h]
  split_ifs <;> rfl

theorem isFinite_unpack_pack (h : IsBounded u) :
    (unpack .binary64 (pack .binary64 u)).isFinite = true := by
  cases u with
  | infinity s => exact h.elim
  | notANumber => exact h.elim
  | zero s => exact isFinite_unpack_packComponents (by decide)
  | finite s m e hm =>
    have he : e ≤ 971 := h
    have hbias : (Format.binary64.exponentBias : ℤ) = 1023 := rfl
    have hbiased : (e + Format.binary64.exponentBias + (52 : ℕ)).toNat ≤ 2046 := by omega
    simp only [pack]
    rw [if_neg (by omega)]
    split_ifs
    · refine isFinite_unpack_packComponents fun hones => ?_
      have hnat := congrArg BitVec.toNat hones
      rw [BitVec.toNat_ofNat, Nat.mod_eq_of_lt (by omega)] at hnat
      have hmax : (-1#11).toNat = 2047 := rfl
      omega
    · exact isFinite_unpack_packComponents (by decide)

/-- A number of at least four: dividing by it makes a number smaller. -/
def isFourUp : UnpackedFloat → Bool
  | .finite _ m e _ => 3 ≤ totalExponent m e
  | _ => false

/-- A number in all bits of a double is one there, too. -/
theorem isFourUp_unpack_pack {hm : 0 < m} (hlog : m.log2 = 52) (he : -50 ≤ e) (he' : e ≤ 971) :
    isFourUp (unpack .binary64 (pack .binary64 (.finite s m e hm))) = true := by
  have hbias : (Format.binary64.exponentBias : ℤ) = 1023 := rfl
  have hbiased : (e + Format.binary64.exponentBias + (52 : ℕ)).toNat = (e + 1075).toNat := by omega
  have hexponent : (BitVec.ofNat 11 (e + 1075).toNat).toNat = (e + 1075).toNat := by
    rw [BitVec.toNat_ofNat, Nat.mod_eq_of_lt (by omega)]
  have hones : BitVec.ofNat 11 (e + 1075).toNat ≠ -1#11 := by
    intro h
    have hnat := congrArg BitVec.toNat h
    have hmax : (-1#11).toNat = 2047 := rfl
    omega
  have hzero : BitVec.ofNat 11 (e + 1075).toNat ≠ 0#11 := by
    intro h
    have hnat := congrArg BitVec.toNat h
    have hmin : (0#11).toNat = 0 := rfl
    omega
  simp only [pack, hbiased, hlog]
  rw [if_neg (by omega), if_pos (show 52 + 1 = Format.binary64.mantissaBits from rfl)]
  simp only [unpack, unpackExponent_packComponents, unpackMantissa_packComponents]
  rw [if_neg hones, if_neg hzero, hexponent]
  have htop : 2 ^ 52 ≤ (1#1 ++ BitVec.ofNat 52 m).toNat := by
    rw [BitVec.toNat_append]
    exact Nat.left_le_or
  have hlog' := (Nat.le_log2 (by omega)).mpr htop
  refine decide_eq_true ?_
  simp only [totalExponent]
  omega

/-- A number may be too large for a double, but it does not become something else. -/
theorem isFinite_or_isInf_unpack_pack (h : u.isFinite = true) :
    (unpack .binary64 (pack .binary64 u)).isFinite = true ∨
      (unpack .binary64 (pack .binary64 u)).isInf = true := by
  cases u with
  | infinity s => cases h
  | notANumber => cases h
  | zero s => exact .inl (isFinite_unpack_pack trivial)
  | finite s m e hm =>
    by_cases he : e ≤ 971
    · exact .inl (isFinite_unpack_pack he)
    · have hbias : (Format.binary64.exponentBias : ℤ) = 1023 := rfl
      have hpack : pack .binary64 (.finite s m e hm) = packedInfinity .binary64 s := by
        simp only [pack]
        rw [if_pos (by omega)]
      rw [hpack]
      cases s <;> exact .inr rfl

/-- The bounds of the numbers that a double holds. -/
theorem bounds_of_unpack {hm : 0 < m} (h : unpack .binary64 b = .finite s m e hm) :
    m < 2 ^ 53 ∧ e ≤ 971 := by
  have hmlt := (unpackMantissa b).isLt
  have helt : (unpackExponent b).toNat < 2048 := (unpackExponent b).isLt
  have hbias : (Format.binary64.exponentBias : ℤ) = 1023 := rfl
  simp only [unpack] at h
  split_ifs at h with hones hmantissa hzero hmantissa
  · rw [UnpackedFloat.finite.injEq] at h
    obtain ⟨-, rfl, rfl⟩ := h
    rw [hzero]
    exact ⟨hmlt.trans (by decide), by decide⟩
  · rw [UnpackedFloat.finite.injEq] at h
    obtain ⟨-, rfl, rfl⟩ := h
    have hne : (unpackExponent b).toNat ≠ 2047 :=
      fun heq => hones (BitVec.eq_of_toNat_eq heq)
    exact ⟨(1#1 ++ unpackMantissa b).isLt, by omega⟩

theorem isBounded_of_isFinite (h : (unpack .binary64 b).isFinite = true) :
    IsBounded (unpack .binary64 b) := by
  cases hu : unpack .binary64 b with
  | infinity s => rw [hu] at h; cases h
  | notANumber => rw [hu] at h; cases h
  | zero s => trivial
  | finite s m e hm => exact (bounds_of_unpack hu).2

/-! ### Rounding -/

theorem log2_le_of_le {n k : ℕ} (h : n ≤ 2 ^ k) : n.log2 ≤ k := by
  rcases Nat.eq_zero_or_pos n with rfl | hpos
  · exact Nat.zero_le k
  · exact Nat.lt_succ_iff.mp ((Nat.log2_lt hpos.ne').mpr
      (h.trans_lt (Nat.pow_lt_pow_right (by decide) k.lt_succ_self)))

theorem log2_div_two_pow (n k : ℕ) : (n / 2 ^ k).log2 = n.log2 - k := by
  induction k with
  | zero => rw [pow_zero, Nat.div_one, Nat.sub_zero]
  | succ k ih =>
    have hhalf : (n / 2 ^ k / 2).log2 = (n / 2 ^ k).log2 - 1 := by
      rw [Nat.log2_def (n / 2 ^ k)]
      split_ifs with htwo
      · rfl
      · rw [Nat.div_eq_of_lt (Nat.lt_of_not_le htwo), Nat.log2_zero]
    rw [pow_succ, ← Nat.div_div_eq_div_mul, hhalf, ih, Nat.sub_sub]

theorem mantissa_shiftRight (x : ExtendedMantissa) (k : ℕ) :
    (x >>> k).mantissa = x.mantissa / 2 ^ k := by
  induction k with
  | zero => exact (Nat.div_one _).symm
  | succ k ih =>
    change (x >>> k).mantissa / 2 = _
    rw [ih, Nat.div_div_eq_div_mul, pow_succ]

theorem mantissa_ofMantissaAndAccuracy (m : ℕ) (a : Accuracy) :
    (ExtendedMantissa.ofMantissaAndAccuracy m a).mantissa = m := by
  cases a with
  | exact => rfl
  | inexact o => cases o <;> rfl

theorem roundedMantissa_mem (x : ExtendedMantissa) :
    x.mantissa ≤ x.roundedMantissa ∧ x.roundedMantissa ≤ x.mantissa + 1 := by
  obtain ⟨m, round, sticky⟩ := x
  cases round <;> cases sticky <;>
    simp only [ExtendedMantissa.roundedMantissa, ExtendedMantissa.accuracy,
      Accuracy.roundToNearestEven] <;> omega

theorem snd_shiftToTargetExponent (m : ℕ) (e : ℤ) (a : Accuracy) :
    (shiftToTargetExponent .binary64 m e a).2 = max e (max (m.log2 + 1 + e - 53) (-1074)) := by
  have htarget : Format.binary64.targetExponent (totalExponent m e) =
      max (m.log2 + 1 + e - 53) (-1074) := rfl
  simp only [shiftToTargetExponent, shiftToExponent, htarget]
  omega

theorem log2_mantissa_shiftToTargetExponent (m : ℕ) (e : ℤ) (a : Accuracy) :
    (shiftToTargetExponent .binary64 m e a).1.mantissa.log2 =
      m.log2 - (max (m.log2 + 1 + e - 53) (-1074) - e).toNat := by
  have htarget : Format.binary64.targetExponent (totalExponent m e) =
      max (m.log2 + 1 + e - 53) (-1074) := rfl
  simp only [shiftToTargetExponent, shiftToExponent, htarget, mantissa_shiftRight,
    mantissa_ofMantissaAndAccuracy, log2_div_two_pow]

/-- Rounding leaves at most the 53 bits of a double, or the power of two above them. -/
theorem roundedMantissa_shiftToTargetExponent_le (m : ℕ) (e : ℤ) (a : Accuracy) :
    (shiftToTargetExponent .binary64 m e a).1.roundedMantissa ≤ 2 ^ 53 := by
  have hlog := log2_mantissa_shiftToTargetExponent m e a
  refine (roundedMantissa_mem _).2.trans (Nat.succ_le_of_lt ?_)
  exact Nat.lt_log2_self.trans_le (Nat.pow_le_pow_right (by decide) (by omega))

/-- What is below `2 ^ 1023` is rounded to a number that a double can hold. -/
theorem isBounded_roundWithAccuracy (htotal : totalExponent m e ≤ 1023) (he : e ≤ 970)
    (a : Accuracy) : IsBounded (roundWithAccuracy .binary64 s m e a) := by
  -- The mantissa is shifted, rounded, and shifted once more if rounding gave it another bit.
  have hlog := log2_le_of_le (roundedMantissa_shiftToTargetExponent_le m e a)
  have hfirst := snd_shiftToTargetExponent m e a
  have hlast := snd_shiftToTargetExponent
    (shiftToTargetExponent .binary64 m e a).1.roundedMantissa
    (shiftToTargetExponent .binary64 m e a).2 .exact
  simp only [totalExponent] at htotal
  simp only [roundWithAccuracy]
  split_ifs
  · trivial
  · change (shiftToTargetExponent .binary64 _ _ .exact).2 ≤ 971
    omega

/-- A number of at least four is rounded to all 53 bits of a double, and to no less than four. -/
theorem exists_roundWithAccuracy_eq (hm : 52 ≤ m.log2) (htotal : 3 ≤ totalExponent m e)
    (s : Sign) (a : Accuracy) :
    ∃ m' e', ∃ hm' : 0 < m', roundWithAccuracy .binary64 s m e a = .finite s m' e' hm' ∧
      m'.log2 = 52 ∧ -50 ≤ e' := by
  have hfirst := snd_shiftToTargetExponent m e a
  have hlog := log2_mantissa_shiftToTargetExponent m e a
  have hle := log2_le_of_le (roundedMantissa_shiftToTargetExponent_le m e a)
  have hmantissa := (roundedMantissa_mem (shiftToTargetExponent .binary64 m e a).1).1
  simp only [totalExponent] at htotal
  simp only [roundWithAccuracy]
  generalize shiftToTargetExponent .binary64 m e a = first at hfirst hlog hle hmantissa ⊢
  have hlast := snd_shiftToTargetExponent first.1.roundedMantissa first.2 .exact
  have hlog' := log2_mantissa_shiftToTargetExponent first.1.roundedMantissa first.2 .exact
  have hge : 52 ≤ first.1.roundedMantissa.log2 := by
    have hne : first.1.mantissa ≠ 0 := by
      intro hzero
      rw [hzero, Nat.log2_zero] at hlog
      omega
    rw [Nat.le_log2 (by omega)]
    exact ((Nat.le_log2 hne).mp (by omega)).trans hmantissa
  generalize shiftToTargetExponent .binary64 first.1.roundedMantissa first.2 .exact = last
    at hlast hlog' ⊢
  have hfinal : last.1.mantissa.log2 = 52 := by omega
  have hne : last.1.mantissa ≠ 0 := by
    intro hzero
    rw [hzero, Nat.log2_zero] at hfinal
    cases hfinal
  exact ⟨_, _, Nat.pos_of_ne_zero hne, dif_neg hne, hfinal, by omega⟩

theorem isFinite_roundWithAccuracy (s : Sign) (m : ℕ) (e : ℤ) (a : Accuracy) :
    (roundWithAccuracy .binary64 s m e a).isFinite = true := by
  simp only [roundWithAccuracy]
  split_ifs <;> rfl

/-! ### Arithmetic -/

theorem isFinite_mul (h : u.isFinite = true) (h' : u'.isFinite = true) :
    (mul .binary64 u u').isFinite = true := by
  cases u with
  | infinity s => cases h
  | notANumber => cases h
  | zero s =>
    cases u' with
    | infinity s' => cases h'
    | notANumber => cases h'
    | zero s' => rfl
    | finite s' m' e' hm' => rfl
  | finite s m e hm =>
    cases u' with
    | infinity s' => cases h'
    | notANumber => cases h'
    | zero s' => rfl
    | finite s' m' e' hm' => exact isFinite_roundWithAccuracy _ _ _ _

/-- A quotient by a number of at least four is not too large. -/
theorem isBounded_div (h : (unpack .binary64 b).isFinite = true) (h' : isFourUp u = true) :
    IsBounded (div .binary64 (unpack .binary64 b) u) := by
  cases u with
  | infinity s' => cases h'
  | notANumber => cases h'
  | zero s' => cases h'
  | finite s' m' e' hm' =>
    have hfour : 3 ≤ (m'.log2 + 1 + e' : ℤ) := of_decide_eq_true h'
    cases hu : unpack .binary64 b with
    | infinity s => rw [hu] at h; cases h
    | notANumber => rw [hu] at h; cases h
    | zero s => trivial
    | finite s m e hm =>
      obtain ⟨hmlt, he⟩ := bounds_of_unpack hu
      have hlog : m.log2 < 53 := (Nat.log2_lt hm.ne').mpr hmlt
      have htarget : Format.binary64.targetExponent (totalExponent m e - totalExponent m' e') =
          max ((m.log2 + 1 + e : ℤ) - (m'.log2 + 1 + e') - 53) (-1074) := rfl
      simp only [div, divCore, htarget]
      set t := min (e - e') (max ((m.log2 + 1 + e : ℤ) - (m'.log2 + 1 + e') - 53) (-1074)) with ht
      set k := (e - e' - t).toNat with hk
      have hquotient : (m <<< k / m').log2 ≤ m.log2 + 1 + k - m'.log2 := by
        refine log2_le_of_le (Nat.div_le_of_le_mul ?_)
        rw [Nat.shiftLeft_eq]
        calc m * 2 ^ k ≤ 2 ^ (m.log2 + 1) * 2 ^ k := Nat.mul_le_mul_right _ Nat.lt_log2_self.le
          _ = 2 ^ (m.log2 + 1 + k) := (pow_add ..).symm
          _ ≤ 2 ^ (m'.log2 + (m.log2 + 1 + k - m'.log2)) :=
            Nat.pow_le_pow_right (by decide) (by omega)
          _ = 2 ^ m'.log2 * 2 ^ (m.log2 + 1 + k - m'.log2) := pow_add ..
          _ ≤ m' * 2 ^ (m.log2 + 1 + k - m'.log2) :=
            Nat.mul_le_mul_right _ (Nat.log2_self_le hm'.ne')
      refine isBounded_roundWithAccuracy ?_ (by omega) _
      simp only [totalExponent]
      omega

theorem isBounded_round {s : Sign} (h : m < 2 ^ 64) :
    IsBounded (UnpackedFloat.round .binary64 s m 0) := by
  simp only [UnpackedFloat.round, decreaseExponent]
  generalize (0 - Format.binary64.targetExponent (totalExponent m 0)).toNat = k
  have hshift : m <<< k ≤ 2 ^ (64 + k) := by
    rw [Nat.shiftLeft_eq, pow_add]
    exact Nat.mul_le_mul_right _ h.le
  have hlog := log2_le_of_le hshift
  refine isBounded_roundWithAccuracy ?_ (by omega) _
  simp only [totalExponent]
  omega

theorem isBounded_ofNat {n : ℕ} (h : n < 2 ^ 64) : IsBounded (ofNat .binary64 n) := by
  simp only [ofNat, ofInt, UnpackedFloat.normalize]
  split
  · next hlt =>
    rw [Int.compare_eq_lt] at hlt
    omega
  · trivial
  · exact isBounded_round h

/-! ### Doubles -/

variable {x y : Float}

theorem isFinite_toFloat (n : UInt64) : n.toFloat.isFinite = true :=
  isFinite_unpack_pack (isBounded_ofNat n.toNat_lt)

theorem isFinite_neg (h : x.isFinite = true) : (-x).isFinite = true := by
  have hbounded : IsBounded x.toModel.unpack.neg := by
    have hx : IsBounded x.toModel.unpack := isBounded_of_isFinite h
    cases hu : x.toModel.unpack with
    | infinity s => rw [hu] at hx; exact hx.elim
    | notANumber => rw [hu] at hx; exact hx.elim
    | zero s => trivial
    | finite s m e hm => rw [hu] at hx; exact hx
  exact isFinite_unpack_pack hbounded

theorem isFinite_mul_of_isInf (h : x.isFinite = true) (h' : y.isFinite = true)
    (hinf : (x * y).isInf = false) : (x * y).isFinite = true := by
  rcases isFinite_or_isInf_unpack_pack (isFinite_mul h h') with hfinite | htoo
  · exact hfinite
  · have htoo' : (x * y).isInf = true := htoo
    rw [hinf] at htoo'
    cases htoo'

theorem isFinite_div (h : x.isFinite = true) (h' : isFourUp y.toModel.unpack = true) :
    (x / y).isFinite = true :=
  isFinite_unpack_pack (isBounded_div h h')

end Meteogram.Double
