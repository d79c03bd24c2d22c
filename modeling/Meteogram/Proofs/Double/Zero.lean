import Mathlib
import Meteogram.Archive.Cell

/-!
# Zeros of doubles

Adding to zero changes no double but the negative zero, which becomes a zero. A sum may therefore
start from zero or from its first number, as long as this is no negative zero; and no integer is
converted to one. Both are facts about the bits of a double, which are put together again from the
parts that they are taken apart into.
-/
open Float.Model (Format UnpackedFloat)
open Float.Model.UnpackedFloat

namespace Meteogram.Double

variable {spec : Format} {b : BitVec spec.numBits}

/-- A number is packed into the components that it was unpacked from, whatever its sign. -/
theorem pack_finite (hb : spec.Valid b) (hspec : 2 ≤ spec.exponentBits) {s : Sign} {m : ℕ} {e : ℤ}
    {hm : 0 < m} (h : unpack spec b = .finite s m e hm) (s' : Sign) :
    pack spec (.finite s' m e hm) =
      packComponents spec s' (unpackExponent b) (unpackMantissa b) := by
  obtain ⟨exponent, mantissa, hpack⟩ : ∃ exponent mantissa, ∀ s : Sign,
      pack spec (.finite s m e hm) = packComponents spec s exponent mantissa := by
    simp only [pack]
    split_ifs
    · exact ⟨_, _, fun _ => rfl⟩
    · exact ⟨_, _, fun _ => rfl⟩
    · exact ⟨_, _, fun _ => rfl⟩
  have hself := pack_unpack_of_valid hb hspec
  rw [h, hpack] at hself
  rw [hpack, ← hself, unpackExponent_packComponents, unpackMantissa_packComponents]

/-- Only the components of a zero are unpacked to a zero. -/
theorem of_unpack_packComponents_eq_zero {s s' : Sign} {e : BitVec spec.exponentBits}
    {m : BitVec spec.mantissaBitsWithoutImplicit}
    (h : unpack spec (packComponents spec s e m) = .zero s') : s' = s ∧ e = 0#_ ∧ m = 0#_ := by
  simp only [unpack, unpackExponent_packComponents, unpackMantissa_packComponents] at h
  split_ifs at h with hones hnan hzero hmantissa
  rw [UnpackedFloat.zero.injEq, unpackSign_packComponents] at h
  refine ⟨?_, hzero, hmantissa⟩
  rw [← h]
  cases s <;> rfl

/-- The sign of a float; what is no number counts as positive. -/
def signOf : UnpackedFloat → Sign
  | .infinity s | .zero s | .finite s _ _ _ => s
  | .notANumber => .positive

variable (spec) in
theorem exists_pack_eq (u : UnpackedFloat) :
    ∃ e m, pack spec u = packComponents spec (signOf u) e m := by
  cases u with
  | infinity s => exact ⟨_, _, rfl⟩
  | notANumber => exact ⟨_, _, rfl⟩
  | zero s => exact ⟨_, _, rfl⟩
  | finite s m e hm =>
    simp only [pack]
    split_ifs
    · exact ⟨_, _, rfl⟩
    · exact ⟨_, _, rfl⟩
    · exact ⟨_, _, rfl⟩

/-- Rounding does not turn a positive number into a negative zero. -/
theorem unpack_pack_ne {u : UnpackedFloat} (h : signOf u = .positive) :
    unpack spec (pack spec u) ≠ .zero .negative := by
  obtain ⟨e, m, hpack⟩ := exists_pack_eq spec u
  intro hzero
  rw [hpack, h] at hzero
  cases (of_unpack_packComponents_eq_zero hzero).1

theorem signOf_ofNat (n : ℕ) : signOf (ofNat spec n) = .positive := by
  have hround : ∀ m e, signOf (UnpackedFloat.round spec .positive m e) = .positive := by
    intro m e
    simp only [UnpackedFloat.round, roundWithAccuracy]
    split_ifs <;> rfl
  simp only [ofNat, ofInt, UnpackedFloat.normalize]
  split
  · next h =>
    rw [Int.compare_eq_lt] at h
    omega
  · rfl
  · exact hround _ _

variable (spec) in
/-- A difference from zero is not a negative zero. -/
theorem unpack_pack_sub_ne (hspec : 2 ≤ spec.exponentBits) (hb : spec.Valid b) :
    unpack spec (pack spec (sub spec (.zero .positive) (unpack spec b))) ≠ .zero .negative := by
  have hones : -BitVec.ofNat spec.exponentBits 1 ≠ BitVec.ofNat spec.exponentBits 0 := by
    have hpow : 2 ^ 1 < 2 ^ spec.exponentBits := Nat.pow_lt_pow_right (by decide) hspec
    intro heq
    rw [← BitVec.toNat_inj, BitVec.neg_one_eq_allOnes, BitVec.toNat_allOnes] at heq
    simp only [BitVec.toNat_zero] at heq
    omega
  cases h : unpack spec b with
  | infinity s =>
    intro hzero
    exact hones (of_unpack_packComponents_eq_zero hzero).2.1
  | notANumber =>
    intro hzero
    exact hones (of_unpack_packComponents_eq_zero hzero).2.1
  | zero s => exact unpack_pack_ne (by cases s <;> rfl)
  | finite s m e hm =>
    intro hzero
    change unpack spec (pack spec (.finite (-s) m e hm)) = _ at hzero
    rw [pack_finite hb hspec h] at hzero
    obtain ⟨-, hexponent, hmantissa⟩ := of_unpack_packComponents_eq_zero hzero
    simp only [unpack, hexponent, hmantissa] at h
    rw [if_neg hones.symm] at h
    simp at h

/-- A sum may start from zero at any other number than negative zero. -/
theorem zero_add_unpacked {u : UnpackedFloat} (h : u ≠ .zero .negative) :
    add spec (.zero .positive) u = u := by
  cases u with
  | infinity s => rfl
  | notANumber => rfl
  | finite s m e hm => rfl
  | zero s =>
    cases s with
    | negative => exact absurd rfl h
    | positive => rfl

/-! ### Doubles and singles -/

theorem model_pack_unpack (x : Float.Model) : Float.Model.pack x.unpack = x := by
  obtain ⟨bits, hvalid⟩ := x
  rw [Float.Model.mk.injEq]
  exact congrArg UInt64.ofBitVec (pack_unpack_of_valid hvalid)

theorem model32_pack_unpack (x : Float32.Model) : Float32.Model.pack x.unpack = x := by
  obtain ⟨bits, hvalid⟩ := x
  rw [Float32.Model.mk.injEq]
  exact congrArg UInt32.ofBitVec (pack_unpack_of_valid hvalid)

theorem eq_negZero_iff {x : Float} : x = -0.0 ↔ x.toModel.unpack = .zero .negative := by
  constructor
  · rintro rfl
    rfl
  · intro h
    have hx := model_pack_unpack x.toModel
    rw [h] at hx
    exact congrArg Float.ofModel hx.symm

theorem eq_negZero32_iff {x : Float32} : x = -0.0 ↔ x.toModel.unpack = .zero .negative := by
  constructor
  · rintro rfl
    rfl
  · intro h
    have hx := model32_pack_unpack x.toModel
    rw [h] at hx
    exact congrArg Float32.ofModel hx.symm

theorem unpack_zero : (0 : Float).toModel.unpack = .zero .positive := rfl

theorem unpack_zero32 : (0 : Float32).toModel.unpack = .zero .positive := rfl

/-- A sum of doubles may start from zero, unless its first number is a negative zero. -/
theorem zero_add_of_ne {x : Float} (h : x ≠ -0.0) : 0 + x = x := by
  have hmodel : Float.Model.add (0 : Float).toModel x.toModel = x.toModel := by
    rw [Float.Model.add, unpack_zero, zero_add_unpacked (mt eq_negZero_iff.mpr h),
      model_pack_unpack]
  exact congrArg Float.ofModel hmodel

theorem zero_add_of_ne32 {x : Float32} (h : x ≠ -0.0) : 0 + x = x := by
  have hmodel : Float32.Model.add (0 : Float32).toModel x.toModel = x.toModel := by
    rw [Float32.Model.add, unpack_zero32, zero_add_unpacked (mt eq_negZero32_iff.mpr h),
      model32_pack_unpack]
  exact congrArg Float32.ofModel hmodel

theorem zero_sub_ne (x : Float) : 0 - x ≠ -0.0 := by
  intro h
  rw [eq_negZero_iff] at h
  have hsub : (0 - x).toModel.unpack =
      unpack .binary64 (pack .binary64 (sub .binary64 (0 : Float).toModel.unpack x.toModel.unpack)) :=
    rfl
  rw [hsub, unpack_zero] at h
  exact unpack_pack_sub_ne .binary64 (by decide) x.toModel.valid h

theorem toFloat_ne (n : UInt64) : n.toFloat ≠ -0.0 := by
  intro h
  rw [eq_negZero_iff] at h
  exact unpack_pack_ne (signOf_ofNat n.toNat) h

theorem toFloat32_ne (n : UInt32) : n.toFloat ≠ -0.0 := by
  intro h
  rw [eq_negZero_iff] at h
  exact unpack_pack_ne (signOf_ofNat n.toNat) h

/-- No integer is converted to a negative zero. -/
theorem nearestDouble_ne (n : Int64) : nearestDouble n ≠ -0.0 := by
  unfold nearestDouble
  split_ifs
  · exact zero_sub_ne _
  · exact toFloat_ne _

end Meteogram.Double
