import EntityWire.Number.Binary
import Mathlib

namespace EntityWire

open Float.Model (Format UnpackedFloat)
open Float.Model.UnpackedFloat

section Unpacked

variable {spec : Format} {u v : UnpackedFloat}

def Numeric (spec : Format) (b : BitVec spec.numBits) : Prop :=
  unpackExponent b = -1#_ → unpackMantissa b = 0#_

theorem toNat_unpackExponent (b : BitVec spec.numBits) :
    (unpackExponent b).toNat =
      b.toNat / 2 ^ spec.mantissaBitsWithoutImplicit % 2 ^ spec.exponentBits := by
  have he := spec.he
  have hw : spec.mantissaBitsWithoutImplicit + spec.exponentBits - 1 -
      spec.mantissaBitsWithoutImplicit + 1 = spec.exponentBits := by omega
  rw [unpackExponent, BitVec.toNat_cast, BitVec.extractLsb_toNat, hw, Nat.shiftRight_eq_div_pow]

theorem toNat_unpackMantissa (b : BitVec spec.numBits) :
    (unpackMantissa b).toNat = b.toNat % 2 ^ spec.mantissaBitsWithoutImplicit := by
  have hm := spec.hm
  have hw : spec.mantissaBitsWithoutImplicit - 1 - 0 + 1 = spec.mantissaBitsWithoutImplicit := by
    omega
  rw [unpackMantissa, BitVec.toNat_cast, BitVec.extractLsb_toNat, hw, Nat.shiftRight_zero]

theorem numeric_iff (b : BitVec spec.numBits) :
    Numeric spec b ↔
      (b.toNat / 2 ^ spec.mantissaBitsWithoutImplicit % 2 ^ spec.exponentBits =
        2 ^ spec.exponentBits - 1 → b.toNat % 2 ^ spec.mantissaBitsWithoutImplicit = 0) := by
  rw [Numeric, ← BitVec.toNat_inj, ← BitVec.toNat_inj, toNat_unpackExponent, toNat_unpackMantissa,
    BitVec.neg_one_eq_allOnes, BitVec.toNat_allOnes, BitVec.toNat_zero]

theorem zero_ne_allOnes (spec : Format) : BitVec.ofNat spec.exponentBits 0 ≠ -1#_ := by
  intro h
  have ht := congrArg BitVec.toNat h
  have hp : 2 ^ 1 ≤ 2 ^ spec.exponentBits := Nat.pow_le_pow_right (by decide) spec.he
  simp only [BitVec.toNat_zero, BitVec.neg_one_eq_allOnes, BitVec.toNat_allOnes] at ht
  omega

theorem ofNat_ne_allOnes {n : Nat} (h : n + 1 < 2 ^ spec.exponentBits) :
    BitVec.ofNat spec.exponentBits n ≠ -1#_ := by
  intro he
  have ht := congrArg BitVec.toNat he
  rw [BitVec.toNat_ofNat, Nat.mod_eq_of_lt (by omega), BitVec.neg_one_eq_allOnes,
    BitVec.toNat_allOnes] at ht
  omega

theorem numeric_pack (h : u ≠ .notANumber) : Numeric spec (pack spec u) := by
  unfold Numeric
  cases u with
  | notANumber => exact absurd rfl h
  | infinity s => simp [pack, packedInfinity]
  | zero s =>
    intro he
    simp only [pack, packedZero, unpackExponent_packComponents] at he
    exact absurd he (zero_ne_allOnes spec)
  | finite s m e hm =>
    simp only [pack]
    split
    · simp [packedInfinity]
    · split
      · intro he
        rw [unpackExponent_packComponents] at he
        exact absurd he (ofNat_ne_allOnes (by omega))
      · intro he
        rw [unpackExponent_packComponents] at he
        exact absurd he (zero_ne_allOnes spec)

theorem unpack_ne {b : BitVec spec.numBits} (h : Numeric spec b) : unpack spec b ≠ .notANumber := by
  unfold unpack
  dsimp only
  split
  · next he =>
    rw [if_pos (h he)]
    exact nofun
  · split
    · split <;> exact nofun
    · exact nofun

theorem roundWithAccuracy_ne (s : UnpackedFloat.Sign) (m : Nat) (e : Int) (a : Accuracy) :
    roundWithAccuracy spec s m e a ≠ .notANumber := by
  unfold roundWithAccuracy
  dsimp only
  split <;> exact nofun

theorem ofNat_ne (n : Nat) : UnpackedFloat.ofNat spec n ≠ .notANumber := by
  unfold UnpackedFloat.ofNat UnpackedFloat.ofInt UnpackedFloat.normalize
  split
  · exact roundWithAccuracy_ne _ _ _ _
  · exact nofun
  · exact roundWithAccuracy_ne _ _ _ _

def isDivisor : UnpackedFloat → Bool
  | .finite .. => true
  | _ => false

theorem div_ne (hu : u ≠ .notANumber) (hv : isDivisor v = true) :
    UnpackedFloat.div spec u v ≠ .notANumber := by
  cases v with
  | notANumber | infinity | zero => nomatch hv
  | finite s m e hm =>
    cases u with
    | notANumber => exact absurd rfl hu
    | infinity | zero => exact nofun
    | finite s' m' e' hm' => exact roundWithAccuracy_ne _ _ _ _

end Unpacked

theorem twoTo_eq (n : Nat) : twoTo n = 2 ^ n := Nat.one_shiftLeft n

namespace Binary64

variable {x y : Binary64}

theorem isNaN_eq_false_iff : x.isNaN = false ↔ Numeric .binary64 x.bits.toBitVec := by
  have hx : x.bits.toBitVec.toNat = x.bits.toNat := rfl
  rw [numeric_iff]
  simp only [isNaN, magnitude, twoTo_eq, decide_eq_false_iff_not, hx]
  omega

theorem isNaN_ofFloat {u : UnpackedFloat} (hu : u ≠ .notANumber) :
    (ofFloat (.ofModel (.pack u))).isNaN = false :=
  isNaN_eq_false_iff.2 (numeric_pack hu)

theorem unpack_toFloat_ne (h : x.isNaN = false) : x.toFloat.toModel.unpack ≠ .notANumber :=
  unpack_ne (numeric_pack (unpack_ne (isNaN_eq_false_iff.1 h)))

theorem isNaN_div (hx : x.isNaN = false) (hy : isDivisor y.toFloat.toModel.unpack = true) :
    (x / y).isNaN = false :=
  isNaN_ofFloat (div_ne (unpack_toFloat_ne hx) hy)

theorem isNaN_ofUnsigned (n : UInt64) : (ofUnsigned n).isNaN = false := isNaN_ofFloat (ofNat_ne _)

theorem isNaN_of_isFinite (h : x.isFinite = true) : x.isNaN = false := by
  simp only [isFinite, isNaN, exponentField, twoTo_eq, decide_eq_true_eq,
    decide_eq_false_iff_not] at h ⊢
  omega

theorem isNaN_negated (x : Binary64) : x.negated.isNaN = x.isNaN := by
  have hm : x.negated.magnitude = x.magnitude := by
    simp only [magnitude, negated, twoTo_eq, UInt64.toNat_xor, Nat.xor_mod_two_pow]
    exact Nat.xor_zero _
  rw [isNaN, isNaN, hm]

theorem isNaN_ofSigned (n : Int64) : (ofSigned n).isNaN = false := by
  unfold ofSigned
  dsimp only
  split
  · rw [isNaN_negated, isNaN_ofUnsigned]
  · exact isNaN_ofUnsigned _

theorem isDivisor_power : ∀ k : Fin 309,
    isDivisor (ofDecimal 1 k).toFloat.toModel.unpack = true := by
  decide +kernel

end Binary64

namespace Binary32

variable {x : Binary32}

theorem isNaN_eq_false_iff : x.isNaN = false ↔ Numeric .binary32 x.bits.toBitVec := by
  have hx : x.bits.toBitVec.toNat = x.bits.toNat := rfl
  rw [numeric_iff]
  simp only [isNaN, magnitude, twoTo_eq, decide_eq_false_iff_not, hx]
  omega

theorem isNaN_ofUnsigned (n : UInt64) : (ofUnsigned n).isNaN = false :=
  isNaN_eq_false_iff.2 (numeric_pack (ofNat_ne _))

theorem isNaN_negated (x : Binary32) : x.negated.isNaN = x.isNaN := by
  have hm : x.negated.magnitude = x.magnitude := by
    simp only [magnitude, negated, twoTo_eq, UInt32.toNat_xor, Nat.xor_mod_two_pow]
    exact Nat.xor_zero _
  rw [isNaN, isNaN, hm]

theorem isNaN_ofSigned (n : Int64) : (ofSigned n).isNaN = false := by
  unfold ofSigned
  dsimp only
  split
  · rw [isNaN_negated, isNaN_ofUnsigned]
  · exact isNaN_ofUnsigned _

theorem isNaN_narrow {x : Binary64} (h : x.isNaN = false) : x.narrow.isNaN = false := by
  have bounded : ∀ {sign body : Nat}, (sign = 2 ^ 31 ∨ sign = 0) → body ≤ 255 * 2 ^ 23 →
      (⟨UInt32.ofNat (sign + body)⟩ : Binary32).isNaN = false := by
    intro sign body hs hb
    simp only [isNaN, magnitude, twoTo_eq, UInt32.toNat_ofNat', decide_eq_false_iff_not]
    omega
  unfold Binary64.narrow
  simp only [h, twoTo_eq]
  refine bounded ?_ ?_
  · split <;> simp
  · rw [if_neg Bool.false_ne_true]
    split
    · exact Nat.le_refl _
    · exact Nat.min_le_right _ _

end Binary32

end EntityWire
