import RomanCalc.Proofs.Number.Value

/-!
# Rounding a significand

Rounding keeps to the side of every number that is a double itself (`RoundsTo`): what lies above or
below such a number before, does so after. The bits that are rounded off a significand
(`roundedOff`) are rounded in this sense, also where only the accuracy of the lost bits is known
(`isRounding_roundWithAccuracy`), and the result is a double (`IsStored`).
-/

namespace RomanCalc.Number

open Float.Model Float.Model.UnpackedFloat

/-- A number of at most fifty-three bits, none of them below the last bit of the smallest doubles.
Larger numbers are left out, so that no result overflows. -/
def Representable (b : ℚ) : Prop :=
  ∃ n k : ℤ, |n| < 2 ^ 53 ∧ -1074 ≤ k ∧ k ≤ 0 ∧ b = n * 2 ^ k

/-- What a number is rounded to: nothing representable lies between the two. -/
def RoundsTo (v r : ℚ) : Prop :=
  ∀ b, Representable b → (v ≤ b → r ≤ b) ∧ (b ≤ v → b ≤ r)

theorem Representable.neg {b : ℚ} (h : Representable b) : Representable (-b) := by
  obtain ⟨n, k, hn, hlow, hhigh, rfl⟩ := h
  refine ⟨-n, k, ?_, hlow, hhigh, ?_⟩
  · rwa [abs_neg]
  · push_cast
    ring

theorem RoundsTo.refl (v : ℚ) : RoundsTo v v :=
  fun _ _ => ⟨id, id⟩

theorem RoundsTo.neg {v r : ℚ} (h : RoundsTo v r) : RoundsTo (-v) (-r) := by
  intro b hb
  obtain ⟨hle, hge⟩ := h (-b) hb.neg
  constructor
  · intro hv
    exact neg_le.mp (hge (neg_le.mp hv))
  · intro hv
    exact le_neg.mp (hle (le_neg.mp hv))

/-- A representable number is not rounded. -/
theorem RoundsTo.eq {v r : ℚ} (h : RoundsTo v r) (hv : Representable v) : r = v :=
  le_antisymm ((h v hv).1 le_rfl) ((h v hv).2 le_rfl)

/-! ## Significands -/

/-- A number that starts with the bits of a significand, up to an accuracy. -/
structure StartsWith (v : ℚ) (m : ℕ) (acc : Accuracy) : Prop where
  le : (m : ℚ) ≤ v
  lt : v < m + 1
  inexact : acc ≠ .exact → (m : ℚ) < v

theorem StartsWith.of_exact (m : ℕ) : StartsWith m m .exact :=
  ⟨le_rfl, by linarith, fun h => absurd rfl h⟩

theorem mantissa_shiftRight (em : ExtendedMantissa) (k : Nat) :
    (em >>> k).mantissa = em.mantissa / 2 ^ k := by
  induction k with
  | zero => exact (Nat.div_one _).symm
  | succ k ih =>
    change (em >>> k).mantissa / 2 = _
    rw [ih, Nat.div_div_eq_div_mul, Nat.pow_succ]

theorem roundedMantissa_le_succ (em : ExtendedMantissa) :
    em.roundedMantissa ≤ em.mantissa + 1 := by
  obtain ⟨m, round, sticky⟩ := em
  have hparity : m % 2 ≤ 1 := by omega
  cases round with
  | false =>
    cases sticky with
    | false => exact Nat.le_succ m
    | true => exact Nat.le_succ m
  | true =>
    cases sticky with
    | false => exact Nat.add_le_add_left hparity m
    | true => exact le_rfl

theorem le_roundedMantissa (em : ExtendedMantissa) : em.mantissa ≤ em.roundedMantissa := by
  obtain ⟨m, round, sticky⟩ := em
  cases round with
  | false =>
    cases sticky with
    | false => exact le_rfl
    | true => exact le_rfl
  | true =>
    cases sticky with
    | false => exact Nat.le_add_right m _
    | true => exact Nat.le_succ m

theorem mantissa_ofMantissaAndAccuracy (m : ℕ) (acc : Accuracy) :
    (ExtendedMantissa.ofMantissaAndAccuracy m acc).mantissa = m := by
  cases acc with
  | exact => rfl
  | inexact o => cases o <;> rfl

/-- The significand that is left when so many bits are rounded off. -/
def roundedOff (m : ℕ) (acc : Accuracy) (k : ℕ) : ℕ :=
  (ExtendedMantissa.ofMantissaAndAccuracy m acc >>> k).roundedMantissa

theorem roundedOff_bounds (m : ℕ) (acc : Accuracy) (k : ℕ) :
    m / 2 ^ k ≤ roundedOff m acc k ∧ roundedOff m acc k ≤ m / 2 ^ k + 1 := by
  have hlow := le_roundedMantissa (ExtendedMantissa.ofMantissaAndAccuracy m acc >>> k)
  have hhigh := roundedMantissa_le_succ (ExtendedMantissa.ofMantissaAndAccuracy m acc >>> k)
  rw [mantissa_shiftRight, mantissa_ofMantissaAndAccuracy] at hlow hhigh
  exact ⟨hlow, hhigh⟩

section

variable {v : ℚ} {m : ℕ} {acc : Accuracy} {n k : ℕ}

theorem le_roundedOff (h : StartsWith v m acc) (hle : ((n * 2 ^ k : ℕ) : ℚ) ≤ v) :
    n ≤ roundedOff m acc k := by
  have hm : n * 2 ^ k < m + 1 := by exact_mod_cast lt_of_le_of_lt hle h.lt
  have hdiv : n ≤ m / 2 ^ k :=
    (Nat.le_div_iff_mul_le (Nat.two_pow_pos k)).mpr (Nat.lt_succ_iff.mp hm)
  exact le_trans hdiv (roundedOff_bounds m acc k).1

theorem roundedOff_le (h : StartsWith v m acc) (hle : v ≤ (n * 2 ^ k : ℕ)) :
    roundedOff m acc k ≤ n := by
  have hm : m ≤ n * 2 ^ k := by exact_mod_cast le_trans h.le hle
  by_cases hexact : acc = .exact ∧ 2 ^ k ∣ m
  · obtain ⟨rfl, q, rfl⟩ := hexact
    rw [Nat.mul_comm] at hm
    have hround : roundedOff (2 ^ k * q) .exact k = q := by
      unfold roundedOff
      rw [Nat.mul_comm]
      change (ExtendedMantissa.mk (q * 2 ^ k) false false >>> k).roundedMantissa = q
      rw [shiftRight_zeros]
      rfl
    rw [hround]
    exact Nat.le_of_mul_le_mul_right hm (Nat.two_pow_pos k)
  · -- bits are lost, so the number is below the next one
    have hlt : m < n * 2 ^ k := by
      refine lt_of_le_of_ne hm ?_
      rintro rfl
      by_cases hacc : acc = .exact
      · exact hexact ⟨hacc, Nat.dvd_mul_left _ _⟩
      · exact absurd hle (not_le.mpr (h.inexact hacc))
    have hdiv : m / 2 ^ k < n := (Nat.div_lt_iff_lt_mul (Nat.two_pow_pos k)).mpr hlt
    exact le_trans (roundedOff_bounds m acc k).2 hdiv

end

/-! ## One rounding -/

/-- The exponent that a number is rounded at. -/
theorem targetExponent_eq (m : ℕ) (e : ℤ) :
    Format.binary64.targetExponent (totalExponent m e) = max ((m.log2 : ℤ) + e - 52) (-1074) := by
  change max ((m.log2 : ℤ) + 1 + e - 53) (-1074) = _
  congr 1
  ring

/-- A significand is long enough for its exponent to be rounded: it has all bits of a double's, or
reaches down to the last exponent. -/
def IsLong (m : ℕ) (e : ℤ) : Prop :=
  52 ≤ m.log2 ∨ e ≤ -1074

section

variable {m : ℕ} {e : ℤ}

/-- How far a long significand is shifted. -/
theorem exists_shift (h : IsLong m e) :
    ∃ k : ℕ, Format.binary64.targetExponent (totalExponent m e) = e + k ∧ -1074 ≤ e + k ∧
      m.log2 ≤ 52 + k ∧ (m.log2 = 52 + k ∨ e + k = -1074) := by
  rw [targetExponent_eq]
  rcases h with h | h
  · exact ⟨(max ((m.log2 : ℤ) + e - 52) (-1074) - e).toNat, by omega, by omega, by omega, by omega⟩
  · exact ⟨(max ((m.log2 : ℤ) + e - 52) (-1074) - e).toNat, by omega, by omega, by omega, by omega⟩

theorem roundedOff_le_pow {k : ℕ} (hlog : m.log2 ≤ 52 + k) (acc : Accuracy) :
    roundedOff m acc k ≤ 2 ^ 53 := by
  have hm : m < 2 ^ 53 * 2 ^ k := by
    calc m < 2 ^ (m.log2 + 1) := Nat.lt_log2_self
      _ ≤ 2 ^ (53 + k) := Nat.pow_le_pow_right (by decide) (by omega)
      _ = 2 ^ 53 * 2 ^ k := Nat.pow_add ..
  have hdiv : m / 2 ^ k < 2 ^ 53 := (Nat.div_lt_iff_lt_mul (Nat.two_pow_pos k)).mpr hm
  exact le_trans (roundedOff_bounds m acc k).2 hdiv

theorem pow_le_of_log2 {k : ℕ} (hlog : m.log2 = 52 + k) : 2 ^ (52 + k) ≤ m := by
  rw [← hlog]
  apply Nat.log2_self_le
  rintro rfl
  rw [Nat.log2_zero] at hlog
  omega

theorem pow_le_roundedOff {k : ℕ} (hlog : m.log2 = 52 + k) (acc : Accuracy) :
    2 ^ 52 ≤ roundedOff m acc k := by
  have hpow : 2 ^ 52 * 2 ^ k ≤ m := by
    rw [← Nat.pow_add]
    exact pow_le_of_log2 hlog
  exact le_trans ((Nat.le_div_iff_mul_le (Nat.two_pow_pos k)).mpr hpow)
    (roundedOff_bounds m acc k).1

/-- A significand that fits needs no shift. -/
theorem shiftToTargetExponent_of_lt {r : ℕ} {t : ℤ} (hr : r < 2 ^ 53) (ht : -1074 ≤ t) :
    shiftToTargetExponent .binary64 r t .exact = (ExtendedMantissa.mk r false false, t) := by
  have hlog : r.log2 ≤ 52 := by
    rcases Nat.eq_zero_or_pos r with rfl | hpos
    · decide
    · exact Nat.lt_succ_iff.mp ((Nat.log2_lt (Nat.ne_of_gt hpos)).mpr hr)
  have htarget : Format.binary64.targetExponent (totalExponent r t) ≤ t := by
    rw [targetExponent_eq]
    omega
  have hshift : (Format.binary64.targetExponent (totalExponent r t) - t).toNat = 0 := by omega
  unfold shiftToTargetExponent shiftToExponent
  simp only [hshift]
  rw [Int.natCast_zero, Int.add_zero]
  rfl

/-- A significand that is carried to one more bit is a power of two. -/
theorem shiftToTargetExponent_carried {t : ℤ} (ht : -1074 ≤ t) :
    shiftToTargetExponent .binary64 (2 ^ 53) t .exact =
      (ExtendedMantissa.mk (2 ^ 52) false false, t + 1) := by
  have htarget : Format.binary64.targetExponent (totalExponent (2 ^ 53) t) = t + 1 := by
    rw [targetExponent_eq, Nat.log2_two_pow]
    omega
  have hshift : (t + 1 - t).toNat = 1 := by omega
  unfold shiftToTargetExponent shiftToExponent
  simp only [htarget, hshift]
  rfl

/-- What is stored of an unpacked number is the number. -/
structure IsStored (u : UnpackedFloat) : Prop where
  isFinite : u.isFinite = true
  unpack_eq : UnpackedFloat.unpack .binary64 (UnpackedFloat.pack .binary64 u) = u

theorem IsStored.zero (s : Sign) : IsStored (.zero s) := by
  cases s <;> exact ⟨rfl, rfl⟩

theorem IsStored.finite {s : Sign} {hm : 0 < m} (h : IsCanonical m e) :
    IsStored (.finite s m e hm) :=
  ⟨rfl, unpack_pack hm h⟩

theorem IsStored.toModel {x : Float} (h : x.isFinite = true) : IsStored x.toModel.unpack := by
  rcases unpack_of_isFinite h with ⟨s, hx⟩ | ⟨s, m, e, hm, hx⟩
  · rw [hx]
    exact .zero s
  · rw [hx]
    exact .finite (isCanonical_of_unpack hx)

/-- A number with a sign. -/
def withSign : Sign → ℚ → ℚ
  | .positive, v => v
  | .negative, v => -v

theorem rational_finite (s : Sign) (hm : 0 < m) :
    rational (.finite s m e hm) = withSign s (m * 2 ^ e) := by
  cases s <;> rfl

theorem RoundsTo.withSign {v r : ℚ} (s : Sign) (h : RoundsTo v r) :
    RoundsTo (withSign s v) (Number.withSign s r) := by
  cases s with
  | positive => exact h
  | negative => exact h.neg

/-- What rounding makes of a significand: the bits that are left, or a power of two where they are
carried to one bit more. -/
theorem roundWithAccuracy_cases {k : ℕ} (s : Sign) (acc : Accuracy)
    (htarget : Format.binary64.targetExponent (totalExponent m e) = e + k)
    (hlow : -1074 ≤ e + k) (hlog : m.log2 ≤ 52 + k) :
    (roundedOff m acc k < 2 ^ 53 ∧ roundWithAccuracy .binary64 s m e acc =
        if h : roundedOff m acc k = 0 then .zero s
        else .finite s (roundedOff m acc k) (e + k) (Nat.pos_of_ne_zero h)) ∨
      (roundedOff m acc k = 2 ^ 53 ∧ roundWithAccuracy .binary64 s m e acc =
        .finite s (2 ^ 52) (e + k + 1) (Nat.two_pow_pos 52)) := by
  have hfirst : shiftToTargetExponent .binary64 m e acc =
      (ExtendedMantissa.ofMantissaAndAccuracy m acc >>> k, e + k) := by
    have hshift : (e + (k : ℤ) - e).toNat = k := by omega
    unfold shiftToTargetExponent shiftToExponent
    simp only [htarget, hshift]
  have hround : roundWithAccuracy .binary64 s m e acc =
      let final := shiftToTargetExponent .binary64 (roundedOff m acc k) (e + k) .exact
      if h : final.1.mantissa = 0 then .zero s
      else .finite s final.1.mantissa final.2 (Nat.pos_of_ne_zero h) := by
    unfold roundWithAccuracy
    simp only [hfirst]
    rfl
  rcases (roundedOff_le_pow hlog acc).lt_or_eq with hlt | hcarry
  · rw [shiftToTargetExponent_of_lt hlt hlow] at hround
    exact .inl ⟨hlt, hround⟩
  · rw [hcarry, shiftToTargetExponent_carried hlow] at hround
    exact .inr ⟨hcarry, hround⟩

/-- The bits that are rounded off leave a number that can be stored. -/
theorem roundWithAccuracy_eq {k : ℕ} (s : Sign) (acc : Accuracy)
    (htarget : Format.binary64.targetExponent (totalExponent m e) = e + k)
    (hlow : -1074 ≤ e + k) (hhigh : e + k ≤ 970) (hlog : m.log2 ≤ 52 + k)
    (hlong : m.log2 = 52 + k ∨ e + k = -1074) :
    IsStored (roundWithAccuracy .binary64 s m e acc) ∧
      rational (roundWithAccuracy .binary64 s m e acc) =
        withSign s (roundedOff m acc k * 2 ^ (e + k)) := by
  rcases roundWithAccuracy_cases s acc htarget hlow hlog with ⟨hlt, hround⟩ | ⟨hcarry, hround⟩
  · rw [hround]
    split
    · next hzero =>
      refine ⟨.zero s, ?_⟩
      rw [hzero]
      cases s <;> simp [rational, withSign]
    · next hne =>
      have hpos := Nat.pos_of_ne_zero hne
      refine ⟨.finite ?_, rational_finite s hpos⟩
      by_cases hfull : 2 ^ 52 ≤ roundedOff m acc k
      · exact .inl ⟨(Nat.log2_eq_iff hne).mpr ⟨hfull, hlt⟩, hlow, by omega⟩
      · refine .inr ⟨Nat.lt_of_not_le hfull, ?_⟩
        rcases hlong with hlong | hlong
        · exact absurd (pow_le_roundedOff hlong acc) hfull
        · exact hlong
  · rw [hround, hcarry]
    refine ⟨.finite (.inl ⟨Nat.log2_two_pow, by omega, by omega⟩), ?_⟩
    rw [rational_finite, zpow_add₀ (by norm_num)]
    congr 1
    push_cast
    ring

/-- On a grid that is no finer than the bits that are left, rounding off keeps to the grid. -/
theorem roundedOff_coarse {v : ℚ} {acc : Accuracy} {k n : ℕ} {q : ℤ} (h : StartsWith v m acc)
    (hq : e + k ≤ q) :
    (v * 2 ^ e ≤ n * 2 ^ q → (roundedOff m acc k : ℚ) * 2 ^ (e + k) ≤ n * 2 ^ q) ∧
      (n * 2 ^ q ≤ v * 2 ^ e → (n : ℚ) * 2 ^ q ≤ roundedOff m acc k * 2 ^ (e + k)) := by
  obtain ⟨d, hd⟩ := Int.eq_ofNat_of_zero_le (show 0 ≤ q - (e + k) by omega)
  have hcoarse : (n : ℚ) * 2 ^ q = (n * 2 ^ d : ℕ) * 2 ^ (e + k) := by
    rw [show q = d + (e + k) by omega, zpow_add₀ (by norm_num) (d : ℤ), zpow_natCast]
    push_cast
    ring
  have hfine : ((n * 2 ^ d : ℕ) : ℚ) * 2 ^ (e + k) = (n * 2 ^ d * 2 ^ k : ℕ) * 2 ^ e := by
    rw [zpow_add₀ (by norm_num), zpow_natCast]
    push_cast
    ring
  have hpow : (0 : ℚ) < 2 ^ e := by positivity
  rw [hcoarse]
  constructor
  · intro hle
    rw [hfine] at hle
    have hround := roundedOff_le h (le_of_mul_le_mul_right hle hpow)
    gcongr
  · intro hle
    rw [hfine] at hle
    have hround := le_roundedOff h (le_of_mul_le_mul_right hle hpow)
    gcongr

theorem le_scaled {k : ℕ} (hlog : m.log2 = 52 + k) :
    (2 : ℚ) ^ 52 * 2 ^ (e + k) ≤ m * 2 ^ e := by
  have hm : (2 : ℚ) ^ 52 * 2 ^ k ≤ m := by
    rw [← pow_add]
    exact_mod_cast pow_le_of_log2 hlog
  calc (2 : ℚ) ^ 52 * 2 ^ (e + k) = 2 ^ 52 * 2 ^ k * 2 ^ e := by
        rw [zpow_add₀ (by norm_num), zpow_natCast]
        ring
    _ ≤ (m : ℚ) * 2 ^ e := by gcongr

theorem pow_succ_le_of_lt {q t : ℤ} (h : q < t) : (2 : ℚ) ^ 53 * 2 ^ q ≤ 2 ^ 52 * 2 ^ t := by
  have hpow : (2 : ℚ) ^ (q + 1) ≤ 2 ^ t := zpow_le_zpow_right₀ (by norm_num) h
  calc (2 : ℚ) ^ 53 * 2 ^ q = 2 ^ 52 * 2 ^ (q + 1) := by
        rw [zpow_add_one₀ (by norm_num)]
        ring
    _ ≤ 2 ^ 52 * 2 ^ t := by gcongr

/-- Rounding off the bits of a long significand is rounding. -/
theorem roundsTo_roundedOff {v : ℚ} {acc : Accuracy} {k : ℕ} (h : StartsWith v m acc)
    (hlong : m.log2 = 52 + k ∨ e + k = -1074) :
    RoundsTo (v * 2 ^ e) (roundedOff m acc k * 2 ^ (e + k)) := by
  have hv : 0 ≤ v := le_trans (Nat.cast_nonneg m) h.le
  rintro b ⟨n, q, hn, hq, -, rfl⟩
  rcases lt_or_ge n 0 with hneg | hnonneg
  · have hb : (n : ℚ) * 2 ^ q < 0 :=
      mul_neg_of_neg_of_pos (by exact_mod_cast hneg) (by positivity)
    have hexact : 0 ≤ v * 2 ^ e := by positivity
    have hround : (0 : ℚ) ≤ roundedOff m acc k * 2 ^ (e + k) := by positivity
    exact ⟨fun hle => absurd (lt_of_le_of_lt hle hb) (not_lt.mpr hexact),
      fun _ => le_trans hb.le hround⟩
  · obtain ⟨n, rfl⟩ := Int.eq_ofNat_of_zero_le hnonneg
    rw [Int.cast_natCast]
    by_cases hcoarse : e + k ≤ q
    · exact roundedOff_coarse h hcoarse
    · -- a finer grid ends below the leading bit
      have hlog : m.log2 = 52 + k := by omega
      have hn' : (n : ℚ) < 2 ^ 53 := by
        rw [abs_of_nonneg hnonneg] at hn
        exact_mod_cast hn
      have hb : (n : ℚ) * 2 ^ q < 2 ^ 52 * 2 ^ (e + k) := by
        calc (n : ℚ) * 2 ^ q < 2 ^ 53 * 2 ^ q := by gcongr
          _ ≤ 2 ^ 52 * 2 ^ (e + k) := pow_succ_le_of_lt (not_le.mp hcoarse)
      have hexact : (2 : ℚ) ^ 52 * 2 ^ (e + k) ≤ v * 2 ^ e := by
        calc (2 : ℚ) ^ 52 * 2 ^ (e + k) ≤ m * 2 ^ e := le_scaled hlog
          _ ≤ v * 2 ^ e := by
            gcongr
            exact h.le
      have hround : (2 : ℚ) ^ 52 * 2 ^ (e + k) ≤ roundedOff m acc k * 2 ^ (e + k) := by
        have hbits : (2 : ℚ) ^ 52 ≤ roundedOff m acc k := by
          exact_mod_cast pow_le_roundedOff hlog acc
        gcongr
      exact ⟨fun hle => absurd (lt_of_le_of_lt hle hb) (not_lt.mpr hexact),
        fun _ => le_trans hb.le hround⟩

/-- A number is rounded to an unpacked one that can be stored. -/
structure IsRounding (v : ℚ) (u : UnpackedFloat) : Prop where
  isStored : IsStored u
  roundsTo : RoundsTo v (rational u)

theorem IsRounding.of_isStored {u : UnpackedFloat} (h : IsStored u) : IsRounding (rational u) u :=
  ⟨h, .refl _⟩

/-- What a long significand is rounded to: the bits that are left. -/
theorem exists_roundedOff {v : ℚ} {acc : Accuracy} (s : Sign) (h : StartsWith v m acc)
    (hlong : IsLong m e) (hv : v * 2 ^ e < 2 ^ 53) :
    ∃ k : ℕ, m.log2 ≤ 52 + k ∧ (m.log2 = 52 + k ∨ e + k = -1074) ∧
      IsStored (roundWithAccuracy .binary64 s m e acc) ∧
      rational (roundWithAccuracy .binary64 s m e acc) =
        withSign s (roundedOff m acc k * 2 ^ (e + k)) := by
  obtain ⟨k, htarget, hlow, hlog, hend⟩ := exists_shift hlong
  have hhigh : e + k ≤ 970 := by
    rcases hend with hbits | hlast
    · have hpow : (2 : ℚ) ^ (52 + k) ≤ v := le_trans (by exact_mod_cast pow_le_of_log2 hbits) h.le
      have hbelow : (2 : ℚ) ^ (((52 + k : ℕ) : ℤ) + e) < 2 ^ (53 : ℤ) := by
        rw [zpow_add₀ (by norm_num), zpow_natCast]
        calc (2 : ℚ) ^ (52 + k) * 2 ^ e ≤ v * 2 ^ e := by gcongr
          _ < 2 ^ (53 : ℤ) := by exact_mod_cast hv
      have := (zpow_lt_zpow_iff_right₀ (by norm_num : (1 : ℚ) < 2)).mp hbelow
      omega
    · omega
  exact ⟨k, hlog, hend, roundWithAccuracy_eq s acc htarget hlow hhigh hlog hend⟩

theorem isRounding_roundWithAccuracy {v : ℚ} {acc : Accuracy} (s : Sign) (h : StartsWith v m acc)
    (hlong : IsLong m e) (hv : v * 2 ^ e < 2 ^ 53) :
    IsRounding (withSign s (v * 2 ^ e)) (roundWithAccuracy .binary64 s m e acc) := by
  obtain ⟨k, -, hend, hstored, hrational⟩ := exists_roundedOff s h hlong hv
  refine ⟨hstored, ?_⟩
  rw [hrational]
  exact (roundsTo_roundedOff h hend).withSign s

/-- Zeros behind a significand lower the exponent. -/
theorem shiftLeft_scaled (m k : Nat) (e : Int) :
    ((m * 2 ^ k : Nat) : ℚ) * 2 ^ (e - k) = m * 2 ^ e := by
  push_cast
  rw [mul_assoc, ← zpow_natCast, ← zpow_add₀ (by norm_num), add_sub_cancel]

theorem isRounding_round (s : Sign) (hm : 0 < m) (hv : (m : ℚ) * 2 ^ e < 2 ^ 53) :
    IsRounding (withSign s (m * 2 ^ e)) (UnpackedFloat.round .binary64 s m e) := by
  let k := (e - Format.binary64.targetExponent (totalExponent m e)).toNat
  have hlog : (m * 2 ^ k).log2 = m.log2 + k := log2_mul_two_pow hm k
  have hlong : IsLong (m * 2 ^ k) (e - k) := by
    have hk : k = (e - max ((m.log2 : ℤ) + e - 52) (-1074)).toNat := by
      rw [← targetExponent_eq]
    unfold IsLong
    rw [hlog]
    omega
  have hvalue := shiftLeft_scaled m k e
  have hround := isRounding_roundWithAccuracy s (StartsWith.of_exact (m * 2 ^ k)) hlong
    (by rwa [hvalue])
  rw [hvalue] at hround
  unfold UnpackedFloat.round
  simp only [decreaseExponent, Nat.shiftLeft_eq]
  exact hround

theorem isRounding_normalize (d : ℤ) (hv : |(d : ℚ) * 2 ^ e| < 2 ^ 53) :
    IsRounding (d * 2 ^ e) (UnpackedFloat.normalize .binary64 d e .positive) := by
  unfold UnpackedFloat.normalize
  rcases lt_trichotomy d 0 with hneg | rfl | hpos
  · obtain ⟨m, hm⟩ := Int.eq_ofNat_of_zero_le (show 0 ≤ -d by omega)
    obtain rfl : d = -(m : ℤ) := by omega
    rw [Int.compare_eq_lt.mpr hneg]
    have hexact : ((-(m : ℤ) : ℤ) : ℚ) * 2 ^ e = -(m * 2 ^ e) := by
      push_cast
      ring
    rw [hexact, abs_neg, abs_of_nonneg (by positivity)] at hv
    rw [hexact, neg_neg, Int.toNat_natCast]
    exact isRounding_round .negative (by omega) hv
  · rw [Int.cast_zero, zero_mul]
    exact .of_isStored (.zero .positive)
  · obtain ⟨m, rfl⟩ := Int.eq_ofNat_of_zero_le hpos.le
    rw [Int.compare_eq_gt.mpr hpos]
    rw [Int.cast_natCast, abs_of_nonneg (by positivity)] at hv
    exact isRounding_round .positive (by omega) hv

end

end RomanCalc.Number
