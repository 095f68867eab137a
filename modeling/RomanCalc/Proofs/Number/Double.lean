import Mathlib
import RomanCalc.Number.Decimal

/-!
# Finite doubles

What the arithmetic of doubles does where it is exact. A double is what its packed form is read as
(`unpack_pack`), so a change of sign is exact (`unpack_neg`). The whole numbers up to the
fifty-third power of two are doubles of themselves: their double is the number with its first bit
moved to the front of the significand (`unpack_ofNat`), so it is finite (`isFinite_ofNat`).
-/

namespace RomanCalc.Number

open Float.Model Float.Model.UnpackedFloat

/-! ## Reading a packed double -/

/-- How a finite number is packed: too large an exponent makes it infinite, and a significand
without the leading bit is subnormal. -/
theorem pack_finite (s : Sign) (m : Nat) (e : Int) (hm : 0 < m) :
    UnpackedFloat.pack .binary64 (.finite s m e hm) =
      if 2048 ≤ (e + 1075).toNat + 1 then packedInfinity .binary64 s
      else if m.log2 + 1 = 53 then
        packComponents .binary64 s (BitVec.ofNat 11 (e + 1075).toNat) (BitVec.ofNat 52 m)
      else packComponents .binary64 s 0#11 (BitVec.ofNat 52 m) := by
  have hbias : e + 1075 = e + (1023 : Nat) + (52 : Nat) := by omega
  rw [hbias]
  rfl

/-- A number with all bits of a significand is what its packed form is read as. -/
theorem unpack_pack_normal {s : Sign} {m : Nat} {e : Int} (hm : 0 < m) (hlog : m.log2 = 52)
    (hlow : -1074 ≤ e) (hhigh : e ≤ 971) :
    UnpackedFloat.unpack .binary64 (UnpackedFloat.pack .binary64 (.finite s m e hm)) =
      .finite s m e hm := by
  have hbounds : 2 ^ 52 ≤ m ∧ m < 2 ^ 53 := (Nat.log2_eq_iff (Nat.ne_of_gt hm)).mp hlog
  have hexponent : (BitVec.ofNat 11 (e + 1075).toNat).toNat = (e + 1075).toNat := by
    rw [BitVec.toNat_ofNat, Nat.mod_eq_of_lt (by omega)]
  have hmantissa : (1#1 ++ BitVec.ofNat 52 m).toNat = m := by
    rw [BitVec.toNat_append, BitVec.toNat_ofNat, ← Nat.shiftLeft_add_eq_or_of_lt (by omega)]
    change 2 ^ 52 + m % 2 ^ 52 = m
    omega
  have hmax : BitVec.ofNat 11 (e + 1075).toNat ≠ -1#11 := by
    intro h
    have : (e + 1075).toNat = 2047 := by rw [← hexponent, h]; rfl
    omega
  have hzero : BitVec.ofNat 11 (e + 1075).toNat ≠ 0#11 := by
    intro h
    have : (e + 1075).toNat = 0 := by rw [← hexponent, h]; rfl
    omega
  rw [pack_finite, if_neg (by omega), if_pos (by omega)]
  unfold UnpackedFloat.unpack
  simp only [unpackExponent_packComponents, unpackMantissa_packComponents,
    unpackSign_packComponents, Sign.ofBitVec_toBitVec, if_neg hmax, if_neg hzero, hmantissa,
    hexponent]
  congr 1
  change ((e + 1075).toNat : Int) - (1023 + 52) = e
  omega

theorem unpack_pack_subnormal {s : Sign} {m : Nat} (hm : 0 < m) (hlt : m < 2 ^ 52) :
    UnpackedFloat.unpack .binary64 (UnpackedFloat.pack .binary64 (.finite s m (-1074) hm)) =
      .finite s m (-1074) hm := by
  have hlog : m.log2 < 52 := (Nat.log2_lt (Nat.ne_of_gt hm)).mpr hlt
  have hmantissa : (BitVec.ofNat 52 m).toNat = m := by
    rw [BitVec.toNat_ofNat, Nat.mod_eq_of_lt hlt]
  have hzero : BitVec.ofNat 52 m ≠ 0#52 := by
    intro h
    have : m = 0 := by rw [← hmantissa, h]; rfl
    omega
  rw [pack_finite, if_neg (by decide), if_neg (by omega)]
  unfold UnpackedFloat.unpack
  simp only [unpackExponent_packComponents, unpackMantissa_packComponents,
    unpackSign_packComponents, Sign.ofBitVec_toBitVec, dif_neg hzero, hmantissa]
  rfl

/-- The significand and the exponent of a double: all bits of a significand, or fewer at the
lowest exponent. -/
def IsCanonical (m : Nat) (e : Int) : Prop :=
  (m.log2 = 52 ∧ -1074 ≤ e ∧ e ≤ 971) ∨ (m < 2 ^ 52 ∧ e = -1074)

theorem isCanonical_of_unpack {bits : BitVec Format.binary64.numBits} {s : Sign} {m : Nat}
    {e : Int} {hm : 0 < m} (h : UnpackedFloat.unpack .binary64 bits = .finite s m e hm) :
    IsCanonical m e := by
  have hlt : (unpackExponent bits).toNat < 2048 := (unpackExponent bits).isLt
  unfold UnpackedFloat.unpack at h
  simp only at h
  split at h
  · split at h <;> cases h
  · rename_i hmax
    have hne : (unpackExponent bits).toNat ≠ 2047 := by
      intro heq
      exact hmax (BitVec.eq_of_toNat_eq heq)
    split at h
    · rename_i hzero
      split at h
      · cases h
      · injection h with _ hmantissa he
        rw [hzero] at he
        exact .inr ⟨hmantissa ▸ (unpackMantissa bits).isLt, he.symm⟩
    · rename_i hzero
      have hpos : (unpackExponent bits).toNat ≠ 0 := by
        intro heq
        exact hzero (BitVec.eq_of_toNat_eq heq)
      injection h with _ hmantissa he
      have hfull : 2 ^ 52 ≤ m ∧ m < 2 ^ 53 := by
        rw [← hmantissa, BitVec.toNat_append,
          ← Nat.shiftLeft_add_eq_or_of_lt (unpackMantissa bits).isLt]
        have hbits : (unpackMantissa bits).toNat < 2 ^ 52 := (unpackMantissa bits).isLt
        change 2 ^ 52 ≤ 2 ^ 52 + (unpackMantissa bits).toNat ∧
          2 ^ 52 + (unpackMantissa bits).toNat < 2 ^ 53
        omega
      change ((unpackExponent bits).toNat : Int) - (1023 + 52) = e at he
      exact .inl ⟨(Nat.log2_eq_iff (Nat.ne_of_gt hm)).mpr hfull, by omega, by omega⟩

/-- The number of a double is what its packed form is read as. -/
theorem unpack_pack {s : Sign} {m : Nat} {e : Int} (hm : 0 < m) (h : IsCanonical m e) :
    UnpackedFloat.unpack .binary64 (UnpackedFloat.pack .binary64 (.finite s m e hm)) =
      .finite s m e hm := by
  rcases h with ⟨hlog, hlow, hhigh⟩ | ⟨hlt, rfl⟩
  · exact unpack_pack_normal hm hlog hlow hhigh
  · exact unpack_pack_subnormal hm hlt

/-- A change of sign is exact. -/
theorem unpack_neg (x : Float) : (-x).toModel.unpack = x.toModel.unpack.neg := by
  change UnpackedFloat.unpack .binary64 (UnpackedFloat.pack .binary64 x.toModel.unpack.neg) = _
  cases h : x.toModel.unpack with
  | infinity s => cases s <;> rfl
  | notANumber => rfl
  | zero s => cases s <;> rfl
  | finite s m e hm => exact unpack_pack hm (isCanonical_of_unpack h)

theorem isFinite_neg_unpacked (u : UnpackedFloat) : u.neg.isFinite = u.isFinite := by
  cases u <;> rfl

/-- A double and its opposite are finite together. -/
@[simp] theorem isFinite_neg (x : Float) : (-x).isFinite = x.isFinite := by
  change (-x).toModel.unpack.isFinite = x.toModel.unpack.isFinite
  rw [unpack_neg, isFinite_neg_unpacked]

/-! ## Whole numbers -/

theorem log2_mul_two_pow {m : Nat} (hm : 0 < m) (k : Nat) : (m * 2 ^ k).log2 = m.log2 + k := by
  induction k with
  | zero => simp
  | succ k ih =>
    have hpos : m * 2 ^ k ≠ 0 := Nat.ne_of_gt (Nat.mul_pos hm (Nat.two_pow_pos k))
    rw [Nat.pow_succ', Nat.mul_left_comm, Nat.log2_two_mul hpos, ih, Nat.add_assoc]

/-- Zeros behind a significand are shifted out without a trace. -/
theorem shiftRight_zeros (m k : Nat) :
    ExtendedMantissa.mk (m * 2 ^ k) false false >>> k = ExtendedMantissa.mk m false false := by
  induction k generalizing m with
  | zero =>
    rw [Nat.pow_zero, Nat.mul_one]
    rfl
  | succ k ih =>
    change ((ExtendedMantissa.mk (m * 2 ^ (k + 1)) false false) >>> k).shiftRightOne = _
    rw [Nat.pow_succ', ← Nat.mul_assoc, ih]
    simp [ExtendedMantissa.shiftRightOne]

theorem shiftToTargetExponent_zeros {m : Nat} {e : Int} (hm : 0 < m) (hlog : m.log2 = 52)
    (hlow : -1074 ≤ e) (k : Nat) :
    shiftToTargetExponent .binary64 (m * 2 ^ k) (e - k) .exact =
      (ExtendedMantissa.mk m false false, e) := by
  have htarget : Format.binary64.targetExponent (totalExponent (m * 2 ^ k) (e - k)) = e := by
    unfold totalExponent Format.targetExponent
    rw [log2_mul_two_pow hm, hlog]
    change max (((52 + k : Nat) : Int) + 1 + (e - k) - 53) (-1074) = e
    omega
  have hshift : (e - (e - k)).toNat = k := by omega
  unfold shiftToTargetExponent shiftToExponent
  simp only [htarget, hshift]
  change (ExtendedMantissa.mk (m * 2 ^ k) false false >>> k, _) = _
  rw [shiftRight_zeros, Int.sub_add_cancel]

/-- Rounding a number that has a significand of the right length changes nothing. -/
theorem roundWithAccuracy_exact {m : Nat} {e : Int} (s : Sign) (hm : 0 < m) (hlog : m.log2 = 52)
    (hlow : -1074 ≤ e) (k : Nat) :
    roundWithAccuracy .binary64 s (m * 2 ^ k) (e - k) .exact = .finite s m e hm := by
  have hfirst := shiftToTargetExponent_zeros hm hlog hlow k
  have hsecond := shiftToTargetExponent_zeros hm hlog hlow 0
  rw [Nat.pow_zero, Nat.mul_one, Int.natCast_zero, Int.sub_zero] at hsecond
  unfold roundWithAccuracy
  simp only [hfirst]
  change (let final := shiftToTargetExponent .binary64 m e .exact
    if h : final.1.mantissa = 0 then UnpackedFloat.zero s
    else .finite s final.1.mantissa final.2 (Nat.pos_of_ne_zero h)) = _
  simp only [hsecond]
  rw [dif_neg (Nat.ne_of_gt hm)]

/-- A whole number with its first bit moved to the front of the significand. -/
def significand (n : Nat) : Nat :=
  n * 2 ^ (52 - n.log2)

theorem significand_pos {n : Nat} (hn : 0 < n) : 0 < significand n :=
  Nat.mul_pos hn (Nat.two_pow_pos _)

theorem log2_significand {n : Nat} (hn : 0 < n) (hlog : n.log2 ≤ 52) :
    (significand n).log2 = 52 := by
  rw [significand, log2_mul_two_pow hn]
  omega

theorem ofNat_finite {n : Nat} (hn : 0 < n) (hlog : n.log2 ≤ 52) :
    UnpackedFloat.ofNat .binary64 n =
      .finite .positive (significand n) ((n.log2 : Int) - 52) (significand_pos hn) := by
  have htarget : Format.binary64.targetExponent (totalExponent n 0) = (n.log2 : Int) - 52 := by
    unfold totalExponent Format.targetExponent
    change max ((n.log2 : Int) + 1 + 0 - 53) (-1074) = _
    omega
  have hshift : (0 - ((n.log2 : Int) - 52)).toNat = 52 - n.log2 := by omega
  have hexponent : (0 : Int) - ((52 - n.log2 : Nat) : Int) = (n.log2 : Int) - 52 := by omega
  have hlow : -1074 ≤ (n.log2 : Int) - 52 := by omega
  have hround := roundWithAccuracy_exact .positive (significand_pos hn)
    (log2_significand hn hlog) hlow 0
  rw [Nat.pow_zero, Nat.mul_one, Int.natCast_zero, Int.sub_zero] at hround
  unfold UnpackedFloat.ofNat UnpackedFloat.ofInt UnpackedFloat.normalize
  rw [Int.compare_eq_gt.mpr (by omega)]
  simp only [UnpackedFloat.round, Int.toNat_natCast, htarget, decreaseExponent, hshift, hexponent,
    Nat.shiftLeft_eq]
  exact hround

theorem unpack_toUInt64_toFloat {n : Nat} (hn : 0 < n) (hlog : n.log2 ≤ 52) :
    n.toUInt64.toFloat.toModel.unpack =
      .finite .positive (significand n) ((n.log2 : Int) - 52) (significand_pos hn) := by
  have hlt : n < 2 ^ 53 := (Nat.log2_lt (Nat.ne_of_gt hn)).mp (by omega)
  have hword : n.toUInt64.toNat = n := by
    rw [Nat.toUInt64_eq, UInt64.toNat_ofNat']
    omega
  change UnpackedFloat.unpack .binary64 (UnpackedFloat.pack .binary64
    (UnpackedFloat.ofNat .binary64 n.toUInt64.toNat)) = _
  rw [hword, ofNat_finite hn hlog, unpack_pack_normal (significand_pos hn) (log2_significand hn hlog)
    (by omega) (by omega)]

/-- A double is made of a whole number by a product with the zeroth power of ten. -/
theorem ofNat_eq_mul_one {n : Nat} (h : n < 2 ^ 53) :
    Float.ofNat n = n.toUInt64.toFloat * Float.ofBits 0x3FF0000000000000 := by
  change Float.ofScientific n false 0 = _
  unfold Float.ofScientific
  rw [dif_pos ⟨h, Nat.zero_le _⟩]
  rfl

theorem unpack_one :
    (Float.ofBits 0x3FF0000000000000).toModel.unpack =
      .finite .positive (2 ^ 52) (-52) (Nat.two_pow_pos 52) := by
  rfl

/-- A whole number below the fifty-third power of two is a double of itself. -/
theorem unpack_ofNat {n : Nat} (hn : 0 < n) (hlt : n < 2 ^ 53) :
    (Float.ofNat n).toModel.unpack =
      .finite .positive (significand n) ((n.log2 : Int) - 52) (significand_pos hn) := by
  have hlog : n.log2 ≤ 52 := by
    have := (Nat.log2_lt (Nat.ne_of_gt hn)).mpr hlt
    omega
  have hpos := significand_pos hn
  have hfull := log2_significand hn hlog
  have hlow : -1074 ≤ (n.log2 : Int) - 52 := by omega
  have hhigh : (n.log2 : Int) - 52 ≤ 971 := by omega
  rw [ofNat_eq_mul_one hlt]
  change UnpackedFloat.unpack .binary64 (UnpackedFloat.pack .binary64
    (UnpackedFloat.mul .binary64 n.toUInt64.toFloat.toModel.unpack
      (Float.ofBits 0x3FF0000000000000).toModel.unpack)) = _
  rw [unpack_toUInt64_toFloat hn hlog, unpack_one]
  -- the product has fifty-two zeros behind the significand, which are rounded off
  have hround := roundWithAccuracy_exact .positive hpos hfull hlow 52
  change UnpackedFloat.unpack .binary64 (UnpackedFloat.pack .binary64
    (roundWithAccuracy .binary64 .positive (significand n * 2 ^ 52)
      ((n.log2 : Int) - 52 - (52 : Nat)) .exact)) = _
  rw [hround, unpack_pack_normal hpos hfull hlow hhigh]

/-- A whole number below the fifty-third power of two has a finite double. -/
theorem isFinite_ofNat {n : Nat} (h : n < 2 ^ 53) : (Float.ofNat n).isFinite = true := by
  rcases Nat.eq_zero_or_pos n with rfl | hn
  · decide
  · change (Float.ofNat n).toModel.unpack.isFinite = true
    rw [unpack_ofNat hn h]
    rfl

end RomanCalc.Number
