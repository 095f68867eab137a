import RomanCalc.Proofs.Number.Rounding

/-!
# Whole numbers and whole parts

A whole number below the fifty-third power of two is a double (`exactValue_ofInt`), and so is the
whole part of any double that is not below zero (`exactValue_ofInt_wholePart`), and what is above
it (`representable_fract`).
-/

namespace RomanCalc.Number

open Float.Model Float.Model.UnpackedFloat

/-! ## Whole numbers -/

theorem exactValue_ofNat {n : Nat} (h : n < 2 ^ 53) : exactValue (Float.ofNat n) = n := by
  unfold exactValue
  rcases Nat.eq_zero_or_pos n with rfl | hn
  · have hzero : (Float.ofNat 0).toModel.unpack = .zero .positive := rfl
    rw [hzero]
    rfl
  · have hlog : n.log2 < 53 := (Nat.log2_lt (Nat.ne_of_gt hn)).mpr h
    have hexponent : (n.log2 : Int) - 52 = 0 - (52 - n.log2 : Nat) := by omega
    rw [unpack_ofNat hn h, hexponent]
    change ((significand n : Nat) : ℚ) * 2 ^ ((0 : Int) - (52 - n.log2 : Nat)) = n
    rw [significand, shiftLeft_scaled, zpow_zero, mul_one]

/-- The double of a whole number with its sign. -/
theorem ofInt_eq (n : ℤ) :
    Float.ofInt n = if n < 0 then -Float.ofNat n.natAbs else Float.ofNat n.natAbs := by
  cases n with
  | ofNat n => rfl
  | negSucc n =>
    rw [if_pos (Int.negSucc_lt_zero n)]
    rfl

theorem exactValue_ofInt {n : ℤ} (h : |n| < 2 ^ 53) : exactValue (Float.ofInt n) = n := by
  have hnat : n.natAbs < 2 ^ 53 := by
    rw [Int.abs_eq_natAbs] at h
    exact_mod_cast h
  have hcast : ((n.natAbs : ℕ) : ℚ) = |(n : ℚ)| := by rw [Nat.cast_natAbs, Int.cast_abs]
  rw [ofInt_eq]
  split
  · next hneg =>
    have hneg' : (n : ℚ) < 0 := by exact_mod_cast hneg
    rw [exactValue_neg, exactValue_ofNat hnat, hcast, abs_of_neg hneg', neg_neg]
  · next hnonneg =>
    have hnonneg' : (0 : ℚ) ≤ n := by exact_mod_cast not_lt.mp hnonneg
    rw [exactValue_ofNat hnat, hcast, abs_of_nonneg hnonneg']

theorem isFinite_ofInt {n : ℤ} (h : |n| < 2 ^ 53) : (Float.ofInt n).isFinite = true := by
  have hnat : n.natAbs < 2 ^ 53 := by
    rw [Int.abs_eq_natAbs] at h
    exact_mod_cast h
  rw [ofInt_eq]
  split
  · rw [isFinite_neg, isFinite_ofNat hnat]
  · exact isFinite_ofNat hnat

theorem model_unpack_pack (u : UnpackedFloat) :
    (Float.Model.pack u).unpack =
      UnpackedFloat.unpack .binary64 (UnpackedFloat.pack .binary64 u) := rfl

/-- A whole number with more bits than a significand is rounded once. -/
theorem unpack_ofNat_of_le {n : ℕ} (h : 2 ^ 53 ≤ n) :
    (Float.ofNat n).toModel.unpack = UnpackedFloat.unpack .binary64 (UnpackedFloat.pack .binary64
      (roundWithAccuracy .binary64 .positive (n * 2 ^ 53) (-53) .exact)) := by
  have hsmall : ¬(n < 2 ^ 53 ∧ 0 ≤ 22) := by omega
  have hne : n ≠ 0 := by omega
  have hlow : ¬(0 : ℤ) < -(2 ^ Format.binary64.exponentBits + (n.log2 : ℤ)) := by
    have : (0 : ℤ) ≤ 2 ^ Format.binary64.exponentBits := by positivity
    omega
  have hround : UnpackedFloat.ofScientific .binary64 n 0 =
      roundWithAccuracy .binary64 .positive (n * 2 ^ 53) (-53) .exact := by
    have hshift : n * 2 ^ 53 = n <<< 53 * 10 ^ 0 := by
      rw [Nat.shiftLeft_eq]
      ring
    unfold UnpackedFloat.ofScientific
    rw [dif_neg hne, if_neg (by decide), if_neg hlow, if_pos le_rfl, hshift]
    rfl
  have hmodel : (Float.ofNat n).toModel =
      Float.Model.pack (UnpackedFloat.ofScientific .binary64 n 0) := by
    change (Float.ofScientific n false 0).toModel = _
    unfold Float.ofScientific
    simp only [dif_neg hsmall, Bool.false_eq_true, if_false, Float.Model.ofScientific,
      Int.ofNat_eq_natCast, Int.natCast_zero]
  rw [hmodel, hround, model_unpack_pack]

/-- A whole number with all bits of a significand in front of zeros is a double of itself. -/
theorem unpack_ofNat_of_log2 {m k : ℕ} (hm : 0 < m) (hlog : m.log2 = 52) (hk : k ≤ 971) :
    (Float.ofNat (m * 2 ^ k)).toModel.unpack = .finite .positive m k hm := by
  rcases Nat.eq_zero_or_pos k with rfl | hpos
  · have hlt : m * 2 ^ 0 < 2 ^ 53 := by
      have hlt : m < 2 ^ (m.log2 + 1) := Nat.lt_log2_self
      rw [hlog] at hlt
      omega
    have hsignificand : significand (m * 2 ^ 0) = m := by
      rw [significand, Nat.pow_zero, Nat.mul_one, hlog]
      omega
    rw [unpack_ofNat (by omega) hlt]
    congr 1
    simp [hlog]
  · have hlarge : 2 ^ 53 ≤ m * 2 ^ k := by
      have hle : 2 ^ 52 ≤ m := hlog ▸ Nat.log2_self_le (Nat.ne_of_gt hm)
      have hmul : 2 ^ 52 * 2 ^ 1 ≤ m * 2 ^ k :=
        Nat.mul_le_mul hle (Nat.pow_le_pow_right (by decide) hpos)
      omega
    have hround := roundWithAccuracy_exact .positive hm hlog (show (-1074 : ℤ) ≤ k by omega)
      (k + 53)
    have hexponent : (k : ℤ) - ((k + 53 : ℕ) : ℤ) = -53 := by omega
    rw [hexponent, Nat.pow_add, ← Nat.mul_assoc] at hround
    rw [unpack_ofNat_of_le hlarge, hround, unpack_pack_normal hm hlog (by omega) (by omega)]

/-! ## Whole parts -/

theorem Representable.of_int {n : ℤ} (h : |n| < 2 ^ 53) : Representable n :=
  ⟨n, 0, h, by decide, le_rfl, by rw [zpow_zero, mul_one]⟩

/-- A double that is not below zero by its significand and exponent. -/
theorem exists_of_nonneg {x : Float} (hx : x.isFinite = true) (h : 0 ≤ exactValue x) :
    exactValue x = 0 ∨ ∃ m e hm, x.toModel.unpack = .finite .positive m e hm := by
  unfold exactValue at h ⊢
  rcases unpack_of_isFinite hx with ⟨s, hzero⟩ | ⟨s, m, e, hm, hfinite⟩
  · rw [hzero]
    exact .inl rfl
  · rw [hfinite] at h ⊢
    cases s with
    | positive => exact .inr ⟨m, e, hm, rfl⟩
    | negative =>
      have hpos : (0 : ℚ) < m * 2 ^ e := by positivity
      exact absurd (neg_nonneg.mp h) (not_le.mpr hpos)

/-- A double with all bits of a significand in steps is a whole number of steps. -/
theorem exists_steps {x : Float} (hx : x.isFinite = true) (k : ℕ)
    (hle : 2 ^ 52 / 2 ^ k ≤ exactValue x) : ∃ j : ℕ, exactValue x = j / 2 ^ k := by
  have hstep : (0 : ℚ) < 2 ^ 52 / 2 ^ k := by positivity
  rcases exists_of_nonneg hx (hstep.le.trans hle) with hzero | ⟨m, e, hm, hfinite⟩
  · exact absurd hle (not_le.mpr (hzero ▸ hstep))
  · have hbits : (m : ℚ) < 2 ^ 53 := by exact_mod_cast (isCanonical_of_unpack hfinite).lt
    have hvalue : exactValue x = m * 2 ^ e := by
      rw [exactValue, hfinite]
      rfl
    have hsteps : (2 : ℚ) ^ (-(k : ℤ)) = 1 / 2 ^ k := by rw [zpow_neg, zpow_natCast, one_div]
    have hexponent : -(k : ℤ) ≤ e := by
      by_contra hlow
      refine absurd hle (not_le.mpr ?_)
      calc exactValue x < 2 ^ 53 * 2 ^ e := by
            rw [hvalue]
            gcongr
        _ ≤ 2 ^ 52 * 2 ^ (-(k : ℤ)) := pow_succ_le_of_lt (not_le.mp hlow)
        _ = 2 ^ 52 / 2 ^ k := by rw [hsteps, mul_one_div]
    obtain ⟨d, hd⟩ := Int.eq_ofNat_of_zero_le (show 0 ≤ e + k by omega)
    refine ⟨m * 2 ^ d, ?_⟩
    rw [hvalue, show e = d + -(k : ℤ) by omega, zpow_add₀ (by norm_num), zpow_natCast, hsteps]
    push_cast
    ring

/-- What a double has above its whole part is representable. -/
theorem representable_fract {x : Float} (hx : x.isFinite = true) (h : 0 ≤ exactValue x) :
    Representable (Int.fract (exactValue x)) := by
  rcases exists_of_nonneg hx h with hzero | ⟨m, e, hm, hfinite⟩
  · rw [hzero, Int.fract_zero]
    exact_mod_cast Representable.of_int (n := 0) (by decide)
  · have hcanonical := isCanonical_of_unpack hfinite
    have hvalue : exactValue x = m * 2 ^ e := by
      rw [exactValue, hfinite]
      rfl
    rw [hvalue]
    rcases le_or_gt 0 e with hwhole | hparts
    · obtain ⟨k, rfl⟩ := Int.eq_ofNat_of_zero_le hwhole
      have hnat : (m : ℚ) * 2 ^ (k : ℤ) = ((m * 2 ^ k : ℕ) : ℚ) := by
        push_cast
        rw [zpow_natCast]
      rw [hnat, Int.fract_natCast]
      exact_mod_cast Representable.of_int (n := 0) (by decide)
    · obtain ⟨k, hk⟩ := Int.eq_ofNat_of_zero_le (show 0 ≤ -e by omega)
      obtain rfl : e = -(k : ℤ) := by omega
      have hparts : (m : ℚ) * 2 ^ (-(k : ℤ)) = (m : ℚ) / ((2 ^ k : ℕ) : ℚ) := by
        rw [zpow_neg, zpow_natCast, div_eq_mul_inv]
        push_cast
        rfl
      have hmod : m % 2 ^ k < 2 ^ 53 := lt_of_le_of_lt (Nat.mod_le m _) hcanonical.lt
      refine ⟨(m % 2 ^ k : ℕ), -(k : ℤ), ?_, hcanonical.le, by omega, ?_⟩
      · rw [abs_of_nonneg (Int.natCast_nonneg _)]
        exact_mod_cast hmod
      · rw [hparts, Int.fract_div_natCast_eq_div_natCast_mod, zpow_neg, zpow_natCast,
          div_eq_mul_inv]
        push_cast
        rfl

/-- The whole part of a double that is not below zero is a double. -/
theorem exactValue_ofInt_wholePart {x : Float} (hx : x.isFinite = true) (h : 0 ≤ exactValue x) :
    (Float.ofInt (wholePart x)).isFinite = true ∧
      exactValue (Float.ofInt (wholePart x)) = wholePart x := by
  have hnonneg : 0 ≤ wholePart x := by
    rw [wholePart_eq]
    exact Int.floor_nonneg.mpr h
  by_cases hsmall : wholePart x < 2 ^ 53
  · have habs : |wholePart x| < 2 ^ 53 := by rwa [abs_of_nonneg hnonneg]
    exact ⟨isFinite_ofInt habs, exactValue_ofInt habs⟩
  · rcases exists_of_nonneg hx h with hzero | ⟨m, e, hm, hfinite⟩
    · refine absurd ?_ hsmall
      rw [wholePart_eq, hzero, Int.floor_zero]
      decide
    · -- the exponent of so large a double is above zero, and its significand has all bits
      have hcanonical := isCanonical_of_unpack hfinite
      have hvalue : exactValue x = m * 2 ^ e := by
        rw [exactValue, hfinite]
        rfl
      have hexponent : 0 < e := by
        by_contra hle
        have hpow : (2 : ℚ) ^ e ≤ 1 := zpow_le_one_of_nonpos₀ (by norm_num) (by omega)
        have hm' : (m : ℚ) < 2 ^ 53 := by exact_mod_cast hcanonical.lt
        have hbelow : exactValue x < 2 ^ 53 := by
          rw [hvalue]
          calc (m : ℚ) * 2 ^ e ≤ m * 1 := by gcongr
            _ < 2 ^ 53 := by rwa [mul_one]
        apply hsmall
        rw [wholePart_eq, Int.floor_lt]
        exact_mod_cast hbelow
      obtain ⟨k, rfl⟩ := Int.eq_ofNat_of_zero_le hexponent.le
      obtain ⟨hlog, -, hhigh⟩ : m.log2 = 52 ∧ -1074 ≤ (k : ℤ) ∧ (k : ℤ) ≤ 971 := by
        rcases hcanonical with hfull | ⟨-, hlast⟩
        · exact hfull
        · omega
      have hwhole : wholePart x = (m * 2 ^ k : ℕ) := by
        rw [wholePart_eq, hvalue, zpow_natCast]
        exact_mod_cast Int.floor_natCast (m * 2 ^ k)
      have hunpack := unpack_ofNat_of_log2 hm hlog (by omega : k ≤ 971)
      rw [hwhole]
      change (Float.ofNat (m * 2 ^ k)).toModel.unpack.isFinite = true ∧
        rational (Float.ofNat (m * 2 ^ k)).toModel.unpack = _
      rw [hunpack]
      refine ⟨rfl, ?_⟩
      change (m : ℚ) * 2 ^ (k : ℤ) = _
      push_cast
      rw [zpow_natCast]

/-- Nothing is lost where zero is taken away. -/
theorem unpack_sub_zero (x : Float) :
    (x - Float.ofInt 0).toModel.unpack = x.toModel.unpack := by
  change UnpackedFloat.unpack .binary64 (UnpackedFloat.pack .binary64
    (UnpackedFloat.sub .binary64 x.toModel.unpack (.zero .positive))) = _
  cases h : x.toModel.unpack with
  | notANumber => rfl
  | infinity s => cases s <;> rfl
  | zero s => cases s <;> rfl
  | finite s m e hm => exact unpack_pack hm (isCanonical_of_unpack h)

/-! ## Rounding half up -/

theorem exactValue_half : exactValue 0.5 = 1 / 2 := by
  have hunpack : (0.5 : Float).toModel.unpack =
      .finite .positive (2 ^ 52) (-53) (by decide) := by rfl
  unfold exactValue
  rw [hunpack]
  norm_num [rational]

section

variable {v : ℚ} {x : Float}

theorem IsRounded.abs_exactValue_le {b : ℚ} (h : IsRounded v x) (hb : Representable b)
    (hle : |v| ≤ b) : |exactValue x| ≤ b := by
  obtain ⟨hlow, hhigh⟩ := abs_le.mp hle
  exact abs_le.mpr ⟨h.ge hb.neg hlow, h.le hb hhigh⟩

/-- A result is not farther from what it stands for than the steps of a grid of doubles. -/
theorem IsRounded.abs_sub_le (h : IsRounded v x) {k : ℕ} (hk : k ≤ 1074)
    (hv : |v| * 2 ^ k < 2 ^ 53 - 1) : |exactValue x - v| ≤ 1 / 2 ^ k := by
  have hpos : (0 : ℚ) < 2 ^ k := by positivity
  have hgrid : ∀ m : ℤ, |m| < 2 ^ 53 → Representable (m / 2 ^ k) := by
    intro m hm
    exact ⟨m, -k, hm, by omega, by omega, by rw [zpow_neg, zpow_natCast, div_eq_mul_inv]⟩
  -- the steps of the grid on both sides
  have habs : |v * 2 ^ k| < 2 ^ 53 - 1 := by rwa [abs_mul, abs_of_pos hpos]
  obtain ⟨hlow, hhigh⟩ := abs_lt.mp habs
  have hfloor := Int.floor_le (v * 2 ^ k)
  have hnext := Int.lt_floor_add_one (v * 2 ^ k)
  generalize ⌊v * 2 ^ k⌋ = m at hfloor hnext
  have hm : -(2 : ℤ) ^ 53 < m ∧ m < 2 ^ 53 - 1 := by
    constructor
    · have hlower : (-(2 : ℤ) ^ 53 : ℚ) < m := by
        push_cast
        linarith
      exact_mod_cast hlower
    · have hupper : (m : ℚ) < ((2 : ℤ) ^ 53 - 1 : ℤ) := by
        push_cast
        linarith
      exact_mod_cast hupper
  have hm_le : (m : ℚ) / 2 ^ k ≤ v := by rwa [div_le_iff₀ hpos]
  have hle_m : v ≤ ((m + 1 : ℤ) : ℚ) / 2 ^ k := by
    rw [le_div_iff₀ hpos]
    push_cast
    exact hnext.le
  have hbelow := h.ge (hgrid m (abs_lt.mpr ⟨hm.1, by omega⟩)) hm_le
  have habove := h.le (hgrid (m + 1) (abs_lt.mpr ⟨by omega, by omega⟩)) hle_m
  have hstep : ((m + 1 : ℤ) : ℚ) / 2 ^ k = m / 2 ^ k + 1 / 2 ^ k := by
    push_cast
    ring
  rw [abs_le]
  constructor <;> linarith

/-- A half is added to a result. -/
theorem IsRounded.add_half (h : IsRounded v x) (hv : |v| ≤ 2 ^ 52) :
    IsRounded (exactValue x + 1 / 2) (x + 0.5) := by
  have hbound : |exactValue x| ≤ 2 ^ 52 := by
    exact h.abs_exactValue_le ⟨2 ^ 52, 0, by norm_num, by decide, le_rfl, by norm_num⟩ hv
  obtain ⟨hlow, hhigh⟩ := abs_le.mp hbound
  rw [← exactValue_half]
  refine .add h.isFinite (by rfl) ?_
  rw [exactValue_half, abs_lt]
  constructor
  · linarith
  · linarith

/-- A result that is not below a half is counted for the next whole number. -/
theorem IsRounded.le_halfUp (h : IsRounded v x) (hv : |v| ≤ 2 ^ 52) {n : ℤ} (hn : |n| < 2 ^ 51)
    (hle : (n : ℚ) - 1 / 2 ≤ v) : n ≤ wholePart (x + 0.5) := by
  have hhalf : Representable ((n : ℚ) - 1 / 2) := by
    refine ⟨2 * n - 1, -1, ?_, by decide, by decide, ?_⟩
    · rw [abs_lt] at hn ⊢
      omega
    · push_cast
      ring
  have hexact := h.ge hhalf hle
  have hwhole : Representable n := .of_int (by omega)
  have hsum := (h.add_half hv).ge hwhole (by linarith)
  rw [wholePart_eq]
  exact Int.le_floor.mpr hsum

/-- A result that is below a half, by more than is lost in the sum, is not. -/
theorem IsRounded.halfUp_lt (h : IsRounded v x) (hv : |v| ≤ 2 ^ 52) {n : ℤ} {δ : ℚ} (hδ : 0 < δ)
    (hbelow : Representable (n - 1 / 2 - δ)) (hbelow' : Representable (n - δ))
    (hle : v ≤ n - 1 / 2 - δ) : wholePart (x + 0.5) < n := by
  have hexact := h.le hbelow hle
  have hsum := (h.add_half hv).le hbelow' (by linarith)
  rw [wholePart_eq, Int.floor_lt]
  linarith

end

end RomanCalc.Number
