import RomanCalc.Proofs.Number.Whole

/-!
# Whole numbers beyond all doubles

A whole number with more bits than a significand loses the last ones, and the first of these decides
whether the others are carried to one bit more (`roundedOff_eq_pow_iff`). The exponents of doubles
end at 971 (`isFinite_pack_iff`), so a whole number has a finite double as long as it is not carried
beyond that exponent (`isFinite_ofInt_iff`). Rounding does not bring it back below the numbers that
have no more bits than a significand (`le_exactValue_ofInt`).
-/

namespace RomanCalc.Number

open Float.Model Float.Model.UnpackedFloat

/-- The middle between the largest double and the next power of two, the least whole number that is
rounded beyond all doubles. -/
def leastOverflow : ℕ :=
  (2 ^ 54 - 1) * 2 ^ 970

/-- The bits are carried to one bit more where all of them are ones and the first one that is
lost, too. -/
theorem roundedOff_eq_pow_iff {m k : ℕ} (hlog : m.log2 = 53 + k) :
    roundedOff m .exact (k + 1) = 2 ^ 53 ↔ (2 ^ 54 - 1) * 2 ^ k ≤ m := by
  have hm : m < 2 ^ 54 * 2 ^ k := by
    rw [← Nat.pow_add, show 54 + k = m.log2 + 1 by omega]
    exact Nat.lt_log2_self
  have hlt : m / 2 ^ k < 2 ^ 54 := (Nat.div_lt_iff_lt_mul (Nat.two_pow_pos k)).mpr hm
  have hmantissa : (ExtendedMantissa.mk m false false >>> k).mantissa = m / 2 ^ k :=
    mantissa_shiftRight _ k
  change (ExtendedMantissa.mk m false false >>> k).shiftRightOne.roundedMantissa = 2 ^ 53 ↔ _
  rw [← Nat.le_div_iff_mul_le (Nat.two_pow_pos k)]
  rw [← hmantissa] at hlt ⊢
  generalize ExtendedMantissa.mk m false false >>> k = em at hlt
  obtain ⟨q, round, sticky⟩ := em
  simp only [ExtendedMantissa.shiftRightOne] at hlt ⊢
  rcases Nat.mod_two_eq_zero_or_one q with heven | hodd
  · have hkept : (ExtendedMantissa.mk (q / 2) (q % 2 != 0) (round || sticky)).roundedMantissa =
        q / 2 := by
      rw [heven]
      cases round || sticky <;> rfl
    rw [hkept]
    omega
  · cases round || sticky with
    | false =>
      have htie : (ExtendedMantissa.mk (q / 2) (q % 2 != 0) false).roundedMantissa =
          q / 2 + q / 2 % 2 := by
        rw [hodd]
        rfl
      rw [htie]
      omega
    | true =>
      have hup : (ExtendedMantissa.mk (q / 2) (q % 2 != 0) true).roundedMantissa = q / 2 + 1 := by
        rw [hodd]
        rfl
      rw [hup]
      omega

/-- What is packed is finite up to the last exponent. -/
theorem isFinite_pack_iff {s : Sign} {m : ℕ} {e : ℤ} (hm : 0 < m) (hlog : m.log2 = 52)
    (hlow : -1074 ≤ e) :
    (UnpackedFloat.unpack .binary64
      (UnpackedFloat.pack .binary64 (.finite s m e hm))).isFinite = true ↔ e ≤ 971 := by
  by_cases hhigh : e ≤ 971
  · rw [unpack_pack_normal hm hlog hlow hhigh]
    exact iff_of_true rfl hhigh
  · rw [pack_finite, if_pos (by omega)]
    refine iff_of_false ?_ hhigh
    cases s <;> decide

/-- The significands and the exponents of doubles end, and so do the doubles. -/
theorem abs_exactValue_lt {x : Float} (h : x.isFinite = true) : |exactValue x| < 2 ^ 1024 := by
  rw [exactValue]
  rcases unpack_of_isFinite h with ⟨s, hx⟩ | ⟨s, m, e, hm, hx⟩
  · rw [hx]
    simp [rational]
  · have hcanonical := isCanonical_of_unpack hx
    have he : e ≤ 971 := by
      rcases hcanonical with ⟨-, -, he⟩ | ⟨-, rfl⟩
      · exact he
      · decide
    have hm' : (m : ℚ) < 2 ^ 53 := by exact_mod_cast hcanonical.lt
    rw [hx, rational_finite, abs_withSign, abs_of_nonneg (by positivity)]
    calc (m : ℚ) * 2 ^ e ≤ m * 2 ^ (971 : ℤ) := by gcongr; norm_num
      _ < 2 ^ 53 * 2 ^ (971 : ℤ) := by gcongr
      _ = 2 ^ 1024 := by rw [← zpow_natCast, ← zpow_natCast, ← zpow_add₀ (by norm_num)]; norm_num

theorem lt_ones {n : ℕ} (h : n < 2 ^ 53) (d : ℕ) : n < (2 ^ 54 - 1) * 2 ^ d := by
  have hpos : 0 < 2 ^ d := Nat.two_pow_pos d
  generalize 2 ^ d = p at *
  omega

theorem lt_leastOverflow {n : ℕ} (h : n < 2 ^ 53) : n < leastOverflow :=
  lt_ones h 970

/-- Fifty-four ones in front of zeros are the least that is carried beyond an exponent. -/
theorem lt_ones_iff {n k d : ℕ} (hlow : 2 ^ (53 + k) ≤ n) (hhigh : n < 2 ^ (54 + k)) :
    n < (2 ^ 54 - 1) * 2 ^ d ↔ k < d ∨ (k = d ∧ n < (2 ^ 54 - 1) * 2 ^ k) := by
  rw [Nat.pow_add] at hlow hhigh
  have hpos : 0 < 2 ^ d := Nat.two_pow_pos d
  rcases lt_trichotomy k d with hlt | rfl | hgt
  · have hpow : 2 ^ (k + 1) ≤ 2 ^ d := Nat.pow_le_pow_right (by decide) hlt
    rw [Nat.pow_succ] at hpow
    generalize 2 ^ k = p, 2 ^ d = q at *
    omega
  · simp
  · have hpow : 2 ^ (d + 1) ≤ 2 ^ k := Nat.pow_le_pow_right (by decide) hgt
    rw [Nat.pow_succ] at hpow
    generalize 2 ^ k = p, 2 ^ d = q at *
    omega

/-- What is packed for a whole number with more bits than a significand. Its exponent is one of a
double unless the number is rounded beyond all of them. -/
theorem exists_unpack_ofNat {n : ℕ} (h : 2 ^ 53 ≤ n) :
    ∃ (m : ℕ) (e : ℤ) (hm : 0 < m), m.log2 = 52 ∧ 1 ≤ e ∧ (e ≤ 971 ↔ n < leastOverflow) ∧
      (Float.ofNat n).toModel.unpack = UnpackedFloat.unpack .binary64
        (UnpackedFloat.pack .binary64 (.finite .positive m e hm)) := by
  have hne : n ≠ 0 := by omega
  obtain ⟨k, hk⟩ := Nat.exists_eq_add_of_le ((Nat.le_log2 hne).mpr h)
  have hlow : 2 ^ (53 + k) ≤ n := hk ▸ Nat.log2_self_le hne
  have hhigh : n < 2 ^ (54 + k) := by
    rw [show 54 + k = n.log2 + 1 by omega]
    exact Nat.lt_log2_self
  -- the bits that are lost include the zeros that rounding starts with
  have hlog : (n * 2 ^ 53).log2 = 53 + (53 + k) := by
    rw [log2_mul_two_pow (Nat.pos_of_ne_zero hne), hk]
    omega
  have htarget : Format.binary64.targetExponent (totalExponent (n * 2 ^ 53) (-53)) =
      -53 + (53 + k + 1 : ℕ) := by
    rw [targetExponent_eq, hlog]
    omega
  have hcarry : roundedOff (n * 2 ^ 53) .exact (53 + k + 1) = 2 ^ 53 ↔
      (2 ^ 54 - 1) * 2 ^ k ≤ n := by
    rw [roundedOff_eq_pow_iff hlog, Nat.pow_add, Nat.mul_comm (2 ^ 53), ← Nat.mul_assoc]
    exact Nat.mul_le_mul_right_iff (Nat.two_pow_pos 53)
  rw [unpack_ofNat_of_le h, leastOverflow, lt_ones_iff hlow hhigh]
  rcases roundWithAccuracy_cases .positive .exact htarget (by omega) (by omega) with
    ⟨hkept, hround⟩ | ⟨hcarried, hround⟩
  · have hfull : 2 ^ 52 ≤ roundedOff (n * 2 ^ 53) .exact (53 + k + 1) :=
      pow_le_roundedOff (by omega) .exact
    have hne' : roundedOff (n * 2 ^ 53) .exact (53 + k + 1) ≠ 0 := by omega
    have hbelow : n < (2 ^ 54 - 1) * 2 ^ k := by
      rw [← not_le, ← hcarry]
      exact Nat.ne_of_lt hkept
    rw [hround, dif_neg hne']
    refine ⟨_, _, _, (Nat.log2_eq_iff hne').mpr ⟨hfull, hkept⟩, by omega, ?_, rfl⟩
    simp only [hbelow, and_true]
    omega
  · have habove := hcarry.mp hcarried
    rw [hround]
    refine ⟨_, _, _, Nat.log2_two_pow, by omega, ?_, rfl⟩
    simp only [not_lt.mpr habove, and_false, or_false]
    omega

/-- A whole number has a finite double unless it is rounded beyond all of them. -/
theorem isFinite_ofNat_iff (n : ℕ) : (Float.ofNat n).isFinite = true ↔ n < leastOverflow := by
  rcases Nat.lt_or_ge n (2 ^ 53) with hsmall | hlarge
  · exact iff_of_true (isFinite_ofNat hsmall) (lt_leastOverflow hsmall)
  · obtain ⟨m, e, hm, hlog, hlow, hhigh, hunpack⟩ := exists_unpack_ofNat hlarge
    change (Float.ofNat n).toModel.unpack.isFinite = true ↔ _
    rw [hunpack, isFinite_pack_iff hm hlog (by omega), hhigh]

/-- A whole number with more bits than a significand is not rounded below one more bit. -/
theorem le_exactValue_ofNat {n : ℕ} (h : 2 ^ 53 ≤ n) (hlt : n < leastOverflow) :
    2 ^ 53 ≤ exactValue (Float.ofNat n) := by
  obtain ⟨m, e, hm, hlog, hlow, hhigh, hunpack⟩ := exists_unpack_ofNat h
  rw [unpack_pack_normal hm hlog (by omega) (hhigh.mpr hlt)] at hunpack
  have hbits : (2 : ℚ) ^ 52 ≤ m := by exact_mod_cast hlog ▸ Nat.log2_self_le (Nat.ne_of_gt hm)
  have hexponent : (2 : ℚ) ≤ 2 ^ e := by
    calc (2 : ℚ) = 2 ^ (1 : ℤ) := (zpow_one 2).symm
      _ ≤ 2 ^ e := zpow_le_zpow_right₀ (by norm_num) hlow
  rw [exactValue, hunpack]
  change (2 : ℚ) ^ 53 ≤ m * 2 ^ e
  calc (2 : ℚ) ^ 53 = 2 ^ 52 * 2 := by norm_num
    _ ≤ (m : ℚ) * 2 ^ e := mul_le_mul hbits hexponent zero_le_two (Nat.cast_nonneg m)

/-- Whether a whole number has a finite double does not depend on its sign. -/
theorem isFinite_ofInt_iff (n : ℤ) :
    (Float.ofInt n).isFinite = true ↔ n.natAbs < leastOverflow := by
  rw [ofInt_eq, ← isFinite_ofNat_iff]
  split
  · rw [isFinite_neg]
  · rfl

theorem le_exactValue_ofInt {n : ℤ} (h : 2 ^ 53 ≤ n.natAbs) (hlt : n.natAbs < leastOverflow) :
    2 ^ 53 ≤ |exactValue (Float.ofInt n)| := by
  have hnat := le_exactValue_ofNat h hlt
  rw [ofInt_eq]
  split
  · rw [exactValue_neg, abs_neg]
    exact le_trans hnat (le_abs_self _)
  · exact le_trans hnat (le_abs_self _)

/-- The double of a whole number that has one. -/
theorem ofInt?_eq (n : ℤ) :
    ofInt? n = if n.natAbs < leastOverflow then some (Float.ofInt n) else none := by
  unfold ofInt?
  simp only [isFinite_ofInt_iff]

end RomanCalc.Number
