import RomanCalc.Number.Binary64
import RomanCalc.Proofs.Number.Double

/-!
# The exact value of a double

The bits of a double tell the sign, the significand and the exponent that it is unpacked to
(`ofFloat_eq`). The number that these stand for is its exact value (`exactValue`), which the whole
part rounds down (`wholePart_eq`).
-/

namespace RomanCalc.Number

open Float.Model Float.Model.UnpackedFloat

/-! ## Bits -/

/-- Whether a number with a sign is below zero. -/
def isNegative : Sign → Bool
  | .negative => true
  | .positive => false

/-- A double by its sign, significand and exponent. -/
def Binary64.ofUnpacked : UnpackedFloat → Binary64
  | .notANumber => .nan
  | .infinity s => .infinite (isNegative s)
  | .zero s => .finite (isNegative s) 0 (-1074)
  | .finite s m e _ => .finite (isNegative s) m e

theorem toNat_unpackExponent (b : BitVec Format.binary64.numBits) :
    (unpackExponent b).toNat = b.toNat / 2 ^ 52 % 2 ^ 11 := by
  unfold unpackExponent
  rw [BitVec.toNat_cast, BitVec.extractLsb_toNat, Nat.shiftRight_eq_div_pow]
  rfl

theorem toNat_unpackMantissa (b : BitVec Format.binary64.numBits) :
    (unpackMantissa b).toNat = b.toNat % 2 ^ 52 := by
  unfold unpackMantissa
  rw [BitVec.toNat_cast, BitVec.extractLsb_toNat, Nat.shiftRight_zero]
  rfl

theorem isNegative_unpackSign (b : BitVec Format.binary64.numBits) :
    isNegative (Sign.ofBitVec (unpackSign b)) = decide (2 ^ 63 ≤ b.toNat) := by
  have hbits : b.toNat < 2 ^ 64 := b.isLt
  have hsign : (unpackSign b).toNat = b.toNat / 2 ^ 63 % 2 ^ 1 := by
    unfold unpackSign
    rw [BitVec.toNat_cast, BitVec.extractLsb_toNat, Nat.shiftRight_eq_div_pow]
    rfl
  unfold Sign.ofBitVec
  by_cases hzero : unpackSign b = 0#1
  · have : (unpackSign b).toNat = 0 := congrArg BitVec.toNat hzero
    rw [if_pos hzero]
    symm
    simp only [isNegative, decide_eq_false_iff_not]
    omega
  · have : (unpackSign b).toNat ≠ 0 := fun h => hzero (BitVec.eq_of_toNat_eq h)
    rw [if_neg hzero]
    symm
    simp only [isNegative, decide_eq_true_eq]
    omega

/-- The bits of a double tell what it is unpacked to. -/
theorem ofFloat_eq (x : Float) : Binary64.ofFloat x = .ofUnpacked x.toModel.unpack := by
  let b : BitVec Format.binary64.numBits := x.toBits.toBitVec
  have hread : Binary64.ofFloat x =
      if b.toNat / 2 ^ 52 % 2 ^ 11 = 2047 then
        if b.toNat % 2 ^ 52 = 0 then .infinite (decide (2 ^ 63 ≤ b.toNat)) else .nan
      else if b.toNat / 2 ^ 52 % 2 ^ 11 = 0 then
        .finite (decide (2 ^ 63 ≤ b.toNat)) (b.toNat % 2 ^ 52) (-1074)
      else
        .finite (decide (2 ^ 63 ≤ b.toNat)) (2 ^ 52 + b.toNat % 2 ^ 52)
          ((b.toNat / 2 ^ 52 % 2 ^ 11 : Nat) - 1075) := rfl
  have hmax : (unpackExponent b).toNat = 2047 ↔ unpackExponent b = -1#11 := by
    rw [← BitVec.toNat_inj]
    rfl
  have hzero : (unpackExponent b).toNat = 0 ↔ unpackExponent b = 0#11 := by
    rw [← BitVec.toNat_inj]
    rfl
  have hnone : (unpackMantissa b).toNat = 0 ↔ unpackMantissa b = 0#52 := by
    rw [← BitVec.toNat_inj]
    rfl
  change _ = Binary64.ofUnpacked (UnpackedFloat.unpack .binary64 b)
  rw [hread, ← toNat_unpackExponent, ← toNat_unpackMantissa, ← isNegative_unpackSign]
  simp only [hmax, hzero, hnone]
  unfold UnpackedFloat.unpack
  simp only
  split
  · split <;> rfl
  · split
    · split
      · rename_i hm
        rw [hm]
        rfl
      · rename_i h _
        rw [h]
        rfl
    · have hfull : (1#1 ++ unpackMantissa b).toNat = 2 ^ 52 + (unpackMantissa b).toNat := by
        rw [BitVec.toNat_append, ← Nat.shiftLeft_add_eq_or_of_lt (unpackMantissa b).isLt]
        rfl
      simp only [Binary64.ofUnpacked, hfull]
      rfl

/-! ## Exact values -/

/-- The number that an unpacked double stands for, and zero where it stands for none. -/
def rational : UnpackedFloat → ℚ
  | .finite .positive m e _ => m * 2 ^ e
  | .finite .negative m e _ => -(m * 2 ^ e)
  | _ => 0

/-- The number that a double stands for, and zero where it stands for none. -/
def exactValue (x : Float) : ℚ :=
  rational x.toModel.unpack

theorem scaledFloor_eq (negative : Bool) (m : Nat) (e : Int) :
    scaledFloor negative m e = ⌊(signed negative m : ℚ) * 2 ^ e⌋ := by
  unfold scaledFloor twoTo
  by_cases he : 0 ≤ e
  · obtain ⟨n, rfl⟩ := Int.eq_ofNat_of_zero_le he
    have hcast : (signed negative m : ℚ) * 2 ^ (n : ℤ) = ((signed negative m * 2 ^ n : ℤ) : ℚ) := by
      push_cast
      rw [zpow_natCast]
    rw [if_pos he, hcast, Int.floor_intCast]
    rfl
  · obtain ⟨n, hn⟩ := Int.eq_ofNat_of_zero_le (show 0 ≤ -e by omega)
    have hexponent : e = -(n : ℤ) := by omega
    subst hexponent
    have hcast : (signed negative m : ℚ) * 2 ^ (-(n : ℤ)) =
        (signed negative m : ℚ) / ((2 ^ n : ℕ) : ℚ) := by
      rw [zpow_neg, zpow_natCast, ← div_eq_mul_inv]
      push_cast
      rfl
    rw [if_neg he, hcast, Rat.floor_intCast_div_natCast]
    simp

/-- The whole part of a double is its value rounded down. -/
theorem wholePart_eq (x : Float) : wholePart x = ⌊exactValue x⌋ := by
  unfold wholePart exactValue
  rw [ofFloat_eq]
  cases x.toModel.unpack with
  | notANumber => rfl
  | infinity s => rfl
  | zero s =>
    simp only [Binary64.ofUnpacked, scaledFloor_eq]
    cases s <;> simp [isNegative, signed, rational]
  | finite s m e hm =>
    simp only [Binary64.ofUnpacked, scaledFloor_eq]
    cases s <;> simp [isNegative, signed, rational]

theorem unpack_of_isFinite {x : Float} (h : x.isFinite = true) :
    (∃ s, x.toModel.unpack = .zero s) ∨ ∃ s m e hm, x.toModel.unpack = .finite s m e hm := by
  have hfinite : x.toModel.unpack.isFinite = true := h
  cases hx : x.toModel.unpack with
  | notANumber =>
    rw [hx] at hfinite
    cases hfinite
  | infinity s =>
    rw [hx] at hfinite
    cases hfinite
  | zero s => exact .inl ⟨s, rfl⟩
  | finite s m e hm => exact .inr ⟨s, m, e, hm, rfl⟩

theorem exists_finite {x : Float} (h : x.isFinite = true) :
    ∃ negative m e, Binary64.ofFloat x = .finite negative m e := by
  rw [ofFloat_eq]
  rcases unpack_of_isFinite h with ⟨s, hx⟩ | ⟨s, m, e, hm, hx⟩
  · rw [hx]
    exact ⟨_, _, _, rfl⟩
  · rw [hx]
    exact ⟨_, _, _, rfl⟩

theorem floor_eq_ok {x : Float} (h : x.isFinite = true) : floor x = .ok (wholePart x) := by
  obtain ⟨negative, m, e, hx⟩ := exists_finite h
  unfold floor
  rw [hx]

theorem exactValue_neg (x : Float) : exactValue (-x) = -exactValue x := by
  unfold exactValue
  rw [unpack_neg]
  cases x.toModel.unpack with
  | notANumber => rfl
  | infinity s => cases s <;> rfl
  | zero s => cases s <;> rfl
  | finite s m e hm =>
    cases s with
    | negative => exact (neg_neg _).symm
    | positive => rfl

/-- A double is below zero where its value is, if it has one. -/
theorem lt_zero_iff {x : Float} (h : x.isFinite = true) : x < 0.0 ↔ exactValue x < 0 := by
  have hlt : x < 0.0 ↔ UnpackedFloat.lt x.toModel.unpack (0.0 : Float).toModel.unpack = true :=
    decide_eq_true_iff
  have hzero : (0.0 : Float).toModel.unpack = .zero .positive := by rfl
  rw [hlt, hzero, exactValue]
  rcases unpack_of_isFinite h with ⟨s, hx⟩ | ⟨s, m, e, hm, hx⟩
  · rw [hx]
    simp [UnpackedFloat.lt, UnpackedFloat.compare, rational]
  · have hpos : (0 : ℚ) < m * 2 ^ e := by positivity
    rw [hx]
    cases s with
    | negative => simpa [UnpackedFloat.lt, UnpackedFloat.compare, rational] using hpos
    | positive => simpa [UnpackedFloat.lt, UnpackedFloat.compare, rational] using hpos.le

end RomanCalc.Number
