import RomanCalc.Proofs.Number.Rounding

/-!
# The nearest double

Where it matters which of two neighbouring doubles a product becomes, the middle between the two
decides, and of the middle itself the last bit does (`RoundsToNearest`). The round bit and the
sticky bit tell on which side of the middle the lost bits of a significand are (`LiesAt`), and they
tell it after every shift (`LiesAt.shiftRight`). So products are rounded to the nearest double
(`IsNearest.mul`).
-/

namespace RomanCalc.Number

open Float.Model Float.Model.UnpackedFloat

/-- What a number that is not below zero is rounded to. Between neighbouring significands of all
bits the middle decides, and the middle goes to the even one. -/
def RoundsToNearest (v r : ℚ) : Prop :=
  ∀ (a : ℕ) (q : ℤ), 2 ^ 52 ≤ a → a < 2 ^ 53 → -1074 ≤ q →
    (v < (a + 1 / 2) * 2 ^ q → r ≤ a * 2 ^ q) ∧
      (v = (a + 1 / 2) * 2 ^ q → r = (a + a % 2 : ℕ) * 2 ^ q) ∧
      ((a + 1 / 2) * 2 ^ q < v → (a + 1) * 2 ^ q ≤ r)

section

variable {v middle : ℚ} {below even above : Prop}

/-- A number on one side of the middle is decided by that side alone. -/
theorem decides_of_lt (h : v < middle) (hbelow : below) :
    (v < middle → below) ∧ (v = middle → even) ∧ (middle < v → above) :=
  ⟨fun _ => hbelow, fun heq => absurd heq h.ne, fun hgt => absurd hgt (not_lt.mpr h.le)⟩

theorem decides_of_eq (h : v = middle) (heven : even) :
    (v < middle → below) ∧ (v = middle → even) ∧ (middle < v → above) :=
  ⟨fun hlt => absurd h hlt.ne, fun _ => heven, fun hgt => absurd h hgt.ne'⟩

theorem decides_of_gt (h : middle < v) (habove : above) :
    (v < middle → below) ∧ (v = middle → even) ∧ (middle < v → above) :=
  ⟨fun hlt => absurd hlt (not_lt.mpr h.le), fun heq => absurd heq h.ne', fun _ => habove⟩

end

theorem RoundsToNearest.zero : RoundsToNearest 0 0 := by
  intro a q _ _ _
  exact decides_of_lt (by positivity) (by positivity)

/-! ## Lost bits -/

/-- Where a number lies between a whole number and the next one, as an accuracy tells. -/
def LiesAt (v : ℚ) (m : ℕ) : Accuracy → Prop
  | .exact => v = m
  | .inexact .lt => m < v ∧ v < m + 1 / 2
  | .inexact .eq => v = m + 1 / 2
  | .inexact .gt => m + 1 / 2 < v ∧ v < m + 1

/-- Bits are lost where one of the two bits is set. -/
theorem LiesAt.lost {v : ℚ} {m : ℕ} {round sticky : Bool}
    (h : LiesAt v m (ExtendedMantissa.mk m round sticky).accuracy) :
    if round || sticky then (m : ℚ) < v ∧ v < m + 1 else v = m := by
  cases round with
  | false =>
    cases sticky with
    | false => exact h
    | true => exact ⟨h.1, by linarith [h.2]⟩
  | true =>
    cases sticky with
    | false =>
      have heq : v = m + 1 / 2 := h
      constructor <;> linarith
    | true => exact ⟨by linarith [h.1], h.2⟩

/-- A bit that is shifted out is the new round bit, and the ones before it stick. -/
theorem LiesAt.shiftRightOne {v : ℚ} {em : ExtendedMantissa}
    (h : LiesAt v em.mantissa em.accuracy) :
    LiesAt (v / 2) em.shiftRightOne.mantissa em.shiftRightOne.accuracy := by
  obtain ⟨m, round, sticky⟩ := em
  have hlost := h.lost
  have hm : (m : ℚ) = 2 * (m / 2 : ℕ) + (m % 2 : ℕ) := by exact_mod_cast (Nat.div_add_mod m 2).symm
  simp only [ExtendedMantissa.shiftRightOne]
  rw [hm] at hlost
  rcases Nat.mod_two_eq_zero_or_one m with heven | hodd
  · rw [heven, Nat.cast_zero, add_zero] at hlost
    rw [heven]
    cases hsticky : round || sticky with
    | false =>
      rw [hsticky] at hlost
      have heq : v / 2 = (m / 2 : ℕ) := by linarith [show v = 2 * (m / 2 : ℕ) from hlost]
      exact heq
    | true =>
      rw [hsticky] at hlost
      obtain ⟨hlow, hhigh⟩ : 2 * ((m / 2 : ℕ) : ℚ) < v ∧ v < 2 * (m / 2 : ℕ) + 1 := hlost
      exact ⟨by linarith, by linarith⟩
  · rw [hodd, Nat.cast_one] at hlost
    rw [hodd]
    cases hsticky : round || sticky with
    | false =>
      rw [hsticky] at hlost
      have heq : v / 2 = (m / 2 : ℕ) + 1 / 2 := by
        linarith [show v = 2 * (m / 2 : ℕ) + 1 from hlost]
      exact heq
    | true =>
      rw [hsticky] at hlost
      obtain ⟨hlow, hhigh⟩ : 2 * ((m / 2 : ℕ) : ℚ) + 1 < v ∧ v < 2 * (m / 2 : ℕ) + 1 + 1 := hlost
      exact ⟨by linarith, by linarith⟩

theorem LiesAt.shiftRight {v : ℚ} {em : ExtendedMantissa} (h : LiesAt v em.mantissa em.accuracy)
    (k : ℕ) : LiesAt (v / 2 ^ k) (em >>> k).mantissa (em >>> k).accuracy := by
  induction k with
  | zero =>
    rw [pow_zero, div_one]
    exact h
  | succ k ih =>
    rw [pow_succ, ← div_div]
    exact ih.shiftRightOne

theorem LiesAt.bounds {v : ℚ} {m : ℕ} {acc : Accuracy} (h : LiesAt v m acc) :
    m ≤ v ∧ v < m + 1 := by
  cases acc with
  | exact =>
    obtain rfl : v = m := h
    exact ⟨le_rfl, by linarith⟩
  | inexact side =>
    cases side with
    | lt => exact ⟨h.1.le, by linarith [h.2]⟩
    | eq =>
      obtain rfl : v = m + 1 / 2 := h
      exact ⟨by linarith, by linarith⟩
    | gt => exact ⟨by linarith [h.1], h.2⟩

/-- The middle between two whole numbers decides which of them a number becomes. -/
theorem LiesAt.roundedMantissa {v : ℚ} {em : ExtendedMantissa}
    (h : LiesAt v em.mantissa em.accuracy) (a : ℕ) :
    (v < a + 1 / 2 → em.roundedMantissa ≤ a) ∧
      (v = a + 1 / 2 → em.roundedMantissa = a + a % 2) ∧
      (a + 1 / 2 < v → a + 1 ≤ em.roundedMantissa) := by
  obtain ⟨hlow, hhigh⟩ := h.bounds
  have hround := le_roundedMantissa em
  have hround' := roundedMantissa_le_succ em
  rcases lt_trichotomy a em.mantissa with hlt | rfl | hgt
  · have hnext : (a : ℚ) + 1 ≤ em.mantissa := by exact_mod_cast hlt
    exact decides_of_gt (by linarith) (by omega)
  · obtain ⟨m, round, sticky⟩ := em
    cases round with
    | false =>
      cases sticky with
      | false => exact decides_of_lt (by linarith [show v = m from h]) le_rfl
      | true => exact decides_of_lt h.2 le_rfl
    | true =>
      cases sticky with
      | false => exact decides_of_eq h rfl
      | true => exact decides_of_gt h.1 le_rfl
  · have hnext : (em.mantissa : ℚ) + 1 ≤ a := by exact_mod_cast hgt
    exact decides_of_lt (by linarith) (by omega)

/-! ## Products -/

/-- The bits that are rounded off an exact significand decide as they stand to the middle. -/
theorem roundedOff_nearest (m k a : ℕ) :
    (m < (a + 1 / 2 : ℚ) * 2 ^ k → roundedOff m .exact k ≤ a) ∧
      (m = (a + 1 / 2 : ℚ) * 2 ^ k → roundedOff m .exact k = a + a % 2) ∧
      ((a + 1 / 2 : ℚ) * 2 ^ k < m → a + 1 ≤ roundedOff m .exact k) := by
  have hpow : (0 : ℚ) < 2 ^ k := by positivity
  have hexact : LiesAt m (ExtendedMantissa.mk m false false).mantissa
      (ExtendedMantissa.mk m false false).accuracy := rfl
  have hdecides := (hexact.shiftRight k).roundedMantissa a
  rwa [div_lt_iff₀ hpow, div_eq_iff hpow.ne', lt_div_iff₀ hpow] at hdecides

section

variable {m : ℕ} {e : ℤ}

theorem scaled_lt {k : ℕ} (hlog : m.log2 ≤ 52 + k) : (m : ℚ) * 2 ^ e < 2 ^ 53 * 2 ^ (e + k) := by
  have hm : m < 2 ^ (53 + k) :=
    lt_of_lt_of_le Nat.lt_log2_self (Nat.pow_le_pow_right (by decide) (by omega))
  have hm' : (m : ℚ) < 2 ^ 53 * 2 ^ k := by
    rw [← pow_add]
    exact_mod_cast hm
  calc (m : ℚ) * 2 ^ e < 2 ^ 53 * 2 ^ k * 2 ^ e := by gcongr
    _ = 2 ^ 53 * 2 ^ (e + k) := by
      rw [zpow_add₀ (by norm_num), zpow_natCast]
      ring

/-- The bits that are rounded off a long significand leave the nearest double. -/
theorem roundsToNearest_roundedOff {k : ℕ} (hlog : m.log2 ≤ 52 + k)
    (hlong : m.log2 = 52 + k ∨ e + k = -1074) :
    RoundsToNearest (m * 2 ^ e) (roundedOff m .exact k * 2 ^ (e + k)) := by
  intro a q ha ha' hq
  have hstep : (0 : ℚ) < 2 ^ q := by positivity
  have hlow : (2 : ℚ) ^ 52 ≤ a := by exact_mod_cast ha
  have hhigh : (a : ℚ) + 1 ≤ 2 ^ 53 := by exact_mod_cast ha'
  rcases lt_trichotomy q (e + k) with hfine | rfl | hcoarse
  · -- the significand starts above the grid
    have hfull : m.log2 = 52 + k := hlong.resolve_right (by omega)
    have hbits : (2 : ℚ) ^ 52 ≤ roundedOff m .exact k := by
      exact_mod_cast pow_le_roundedOff hfull .exact
    have habove : (a + 1) * 2 ^ q ≤ (2 : ℚ) ^ 52 * 2 ^ (e + k) := by
      calc (a + 1) * 2 ^ q ≤ (2 : ℚ) ^ 53 * 2 ^ q := by gcongr
        _ ≤ 2 ^ 52 * 2 ^ (e + k) := pow_succ_le_of_lt hfine
    have hexact : 2 ^ 52 * 2 ^ (e + k) ≤ (m : ℚ) * 2 ^ e := le_scaled hfull
    exact decides_of_gt (by linarith) (le_trans habove (by gcongr))
  · have hdecides := roundedOff_nearest m k a
    have hpow : (0 : ℚ) < 2 ^ e := by positivity
    have hmiddle : ((a : ℚ) + 1 / 2) * 2 ^ (e + k) = (a + 1 / 2) * 2 ^ k * 2 ^ e := by
      rw [zpow_add₀ (by norm_num), zpow_natCast]
      ring
    rw [hmiddle, mul_lt_mul_iff_left₀ hpow, mul_lt_mul_iff_left₀ hpow, mul_left_inj' hpow.ne']
    refine ⟨fun h => ?_, fun h => ?_, fun h => ?_⟩
    · have hle : (roundedOff m .exact k : ℚ) ≤ a := by exact_mod_cast hdecides.1 h
      gcongr
    · rw [hdecides.2.1 h]
    · have hle : (a : ℚ) + 1 ≤ roundedOff m .exact k := by exact_mod_cast hdecides.2.2 h
      gcongr
  · -- the significand ends below the grid
    have hbits : (roundedOff m .exact k : ℚ) ≤ 2 ^ 53 := by
      exact_mod_cast roundedOff_le_pow hlog .exact
    have hbelow : (2 : ℚ) ^ 53 * 2 ^ (e + k) ≤ a * 2 ^ q := by
      calc (2 : ℚ) ^ 53 * 2 ^ (e + k) ≤ 2 ^ 52 * 2 ^ q := pow_succ_le_of_lt hcoarse
        _ ≤ a * 2 ^ q := by gcongr
    have hexact : (m : ℚ) * 2 ^ e < 2 ^ 53 * 2 ^ (e + k) := scaled_lt hlog
    exact decides_of_lt (by linarith) (le_trans (by gcongr) hbelow)

/-- What a long significand is rounded to is the nearest double. -/
theorem nearest_roundWithAccuracy (s : Sign) (hlong : IsLong m e) (hv : (m : ℚ) * 2 ^ e < 2 ^ 53) :
    RoundsToNearest (m * 2 ^ e) |rational (roundWithAccuracy .binary64 s m e .exact)| := by
  obtain ⟨k, hlog, hend, -, hrational⟩ := exists_roundedOff s (StartsWith.of_exact m) hlong hv
  rw [hrational, abs_withSign, abs_of_nonneg (by positivity)]
  exact roundsToNearest_roundedOff hlog hend

end

theorem nearest_mul {u v : UnpackedFloat} (hu : IsStored u) (hv : IsStored v)
    (h : |rational u * rational v| < 2 ^ 53) :
    RoundsToNearest |rational u * rational v| |rational (UnpackedFloat.mul .binary64 u v)| := by
  cases u with
  | notANumber => cases hu.isFinite
  | infinity s => cases hu.isFinite
  | zero s =>
    change RoundsToNearest |0 * _| _
    rw [zero_mul, abs_zero]
    cases v with
    | notANumber => cases hv.isFinite
    | infinity t => cases hv.isFinite
    | zero t => exact .zero
    | finite t n q hn => exact .zero
  | finite s m e hm =>
    cases v with
    | notANumber => cases hv.isFinite
    | infinity t => cases hv.isFinite
    | zero t =>
      change RoundsToNearest |_ * 0| _
      rw [mul_zero, abs_zero]
      exact .zero
    | finite t n q hn =>
      have hexact : |rational (.finite s m e hm) * rational (.finite t n q hn)| =
          (m * n : ℕ) * 2 ^ (e + q) := by
        rw [rational_mul, abs_withSign, abs_of_nonneg (by positivity)]
      rw [hexact] at h ⊢
      exact nearest_roundWithAccuracy (s * t) (isLong_mul hm hn hu.isCanonical hv.isCanonical) h

/-- A number is rounded to the nearest double. -/
structure IsNearest (v : ℚ) (x : Float) : Prop extends IsRounded v x where
  nearest : RoundsToNearest |v| |exactValue x|

namespace IsNearest

variable {v : ℚ} {x y : Float}

theorem of_nonneg (h : IsNearest v x) (hv : 0 ≤ v) : RoundsToNearest v (exactValue x) := by
  have hzero : Representable 0 := ⟨0, 0, by decide, by decide, le_rfl, by norm_num⟩
  have hnearest := h.nearest
  rwa [abs_of_nonneg hv, abs_of_nonneg (h.ge hzero hv)] at hnearest

theorem of_nonpos (h : IsNearest v x) (hv : v ≤ 0) : RoundsToNearest (-v) (-exactValue x) := by
  have hzero : Representable 0 := ⟨0, 0, by decide, by decide, le_rfl, by norm_num⟩
  have hnearest := h.nearest
  rwa [abs_of_nonpos hv, abs_of_nonpos (h.le hzero hv)] at hnearest

/-- A product is the nearest double to the exact product. -/
protected theorem mul (hx : x.isFinite = true) (hy : y.isFinite = true)
    (h : |exactValue x * exactValue y| < 2 ^ 53) :
    IsNearest (exactValue x * exactValue y) (x * y) := by
  have hproduct := IsRounding.mul (.toModel hx) (.toModel hy) h
  have hunpack : (x * y).toModel.unpack =
      UnpackedFloat.mul .binary64 x.toModel.unpack y.toModel.unpack := hproduct.isStored.unpack_eq
  refine ⟨.mul hx hy h, ?_⟩
  have hnearest := nearest_mul (.toModel hx) (.toModel hy) h
  rwa [← hunpack] at hnearest

end IsNearest

end RomanCalc.Number
