import RomanCalc.Proofs.Number.Nearest
import RomanCalc.Proofs.Number.Whole

/-!
# Counting next to a half

From the half above a whole number on, doubles are apart by a power of two that the size of the half
sets (`gap`). A result that is at least so far below the half is not counted for the next whole
number (`halfUp_le_of_le`), and a result that is not below the half is (`lt_halfUp_of_le`). With a
minus sign it is the other way round: the half goes to the count that is nearer to zero
(`neg_le_halfUp_of_le`, `halfUp_lt_neg_of_le`). Of what is rounded to the nearest double, the middle
between the half and its neighbour decides (`lt_halfUp_iff`, `halfUp_lt_neg_iff`).
-/

namespace RomanCalc.Number

/-- The distance of the half above a whole number to the next double. -/
def gap (n : ℕ) : ℚ :=
  2 ^ (((2 * n + 1).log2 : ℤ) - 53)

theorem gap_pos (n : ℕ) : 0 < gap n := by
  unfold gap
  positivity

theorem gap_le (n : ℕ) : gap n ≤ (n + 1 / 2) / 2 ^ 52 := by
  have hlog : ((2 ^ (2 * n + 1).log2 : ℕ) : ℚ) ≤ (2 * n + 1 : ℕ) := by
    exact_mod_cast Nat.log2_self_le (Nat.succ_ne_zero _)
  have hgap : gap n = (2 ^ (2 * n + 1).log2 : ℕ) / 2 ^ 53 := by
    rw [gap, zpow_sub₀ (by norm_num), zpow_natCast, Nat.cast_pow]
    norm_num
  rw [hgap]
  push_cast at hlog ⊢
  linarith

theorem log2_mono {m n : ℕ} (h : m ≤ n) : m.log2 ≤ n.log2 := by
  rw [Nat.log2_eq_log_two, Nat.log2_eq_log_two]
  exact Nat.log_mono_right h

theorem gap_mono {m n : ℕ} (h : m ≤ n) : gap m ≤ gap n := by
  have := log2_mono (show 2 * m + 1 ≤ 2 * n + 1 by omega)
  exact zpow_le_zpow_right₀ (by norm_num) (by omega)

section

variable {n : ℕ}

theorem log2_le (hn : n < 2 ^ 50) : (2 * n + 1).log2 ≤ 50 :=
  le_trans (log2_mono (show 2 * n + 1 ≤ 2 ^ 51 - 1 by omega)) (by decide)

/-- A half in steps of the distance between doubles. -/
theorem half_eq_gap (hn : n < 2 ^ 50) :
    (1 : ℚ) / 2 = (2 ^ (52 - (2 * n + 1).log2) : ℕ) * gap n := by
  have hlog := log2_le hn
  have hexponent : ((52 - (2 * n + 1).log2 : ℕ) : ℤ) + (((2 * n + 1).log2 : ℤ) - 53) = -1 := by
    omega
  rw [gap, Nat.cast_pow, Nat.cast_ofNat, ← zpow_natCast, ← zpow_add₀ (by norm_num), hexponent]
  norm_num

theorem gap_lt_half (hn : n < 2 ^ 50) : gap n < 1 / 2 := by
  have hlog := log2_le hn
  calc gap n ≤ 2 ^ (-3 : ℤ) := zpow_le_zpow_right₀ (by norm_num) (by omega)
    _ < 1 / 2 := by norm_num

/-- A whole number of steps that stays below the next whole number is representable. -/
theorem representable_steps (hn : n < 2 ^ 50) {q : ℚ} (j : ℤ) (hq : q = j * gap n)
    (hlt : |q| < n + 1) : Representable q := by
  have hlog := log2_le hn
  have hnext : (n : ℚ) + 1 ≤ 2 ^ 53 * gap n := by
    have hnat : n + 1 ≤ 2 ^ (2 * n + 1).log2 := by
      have hlt : 2 * n + 1 < 2 ^ ((2 * n + 1).log2 + 1) := Nat.lt_log2_self
      rw [Nat.pow_succ] at hlt
      omega
    have hpow : (2 : ℚ) ^ 53 * gap n = (2 ^ (2 * n + 1).log2 : ℕ) := by
      rw [gap, Nat.cast_pow, Nat.cast_ofNat, ← zpow_natCast 2 53, ← zpow_add₀ (by norm_num),
        ← zpow_natCast]
      congr 1
      push_cast
      ring
    rw [hpow]
    exact_mod_cast hnat
  refine ⟨j, (2 * n + 1).log2 - 53, ?_, by omega, by omega, hq⟩
  have hsteps : |(j : ℚ)| * gap n < 2 ^ 53 * gap n := by
    rw [← abs_of_pos (gap_pos n), ← abs_mul, abs_of_pos (gap_pos n), ← hq]
    exact lt_of_lt_of_le hlt hnext
  exact_mod_cast lt_of_mul_lt_mul_right hsteps (gap_pos n).le

theorem representable_near (hn : n < 2 ^ 50) :
    (Representable (n + 1 / 2 - gap n) ∧ Representable (n + 1 - gap n)) ∧
      Representable (n + 1 / 2 + gap n) ∧ Representable (n + gap n) := by
  have hhalf := half_eq_gap hn
  have hpos := gap_pos n
  have hlt := gap_lt_half hn
  have hn0 : (0 : ℚ) ≤ n := Nat.cast_nonneg n
  generalize 2 ^ (52 - (2 * n + 1).log2) = half at hhalf
  have hone : (1 : ℚ) = 2 * half * gap n := by linarith
  have hwhole : (n : ℚ) = 2 * n * half * gap n := by linear_combination (n : ℚ) * hone
  refine ⟨⟨?_, ?_⟩, ?_, ?_⟩
  · apply representable_steps hn (2 * n * half + half - 1)
    · push_cast
      linear_combination hwhole + hhalf
    · rw [abs_lt]
      constructor <;> linarith
  · apply representable_steps hn (2 * n * half + 2 * half - 1)
    · push_cast
      linear_combination hwhole + hone
    · rw [abs_lt]
      constructor <;> linarith
  · apply representable_steps hn (2 * n * half + half + 1)
    · push_cast
      linear_combination hwhole + hhalf
    · rw [abs_lt]
      constructor <;> linarith
  · apply representable_steps hn (2 * n * half + 1)
    · push_cast
      linear_combination hwhole
    · rw [abs_lt]
      constructor <;> linarith

variable {u : ℚ} {z : Float}

/-- A result that is not below a half is counted for the next whole number. -/
theorem lt_halfUp_of_le (h : IsRounded u z) (hu : |u| ≤ 2 ^ 52) (hn : n < 2 ^ 50)
    (hle : (n : ℚ) + 1 / 2 ≤ u) : (n : ℤ) < wholePart (z + 0.5) := by
  have hcount : (n : ℤ) + 1 ≤ wholePart (z + 0.5) := by
    apply h.le_halfUp hu (abs_lt.mpr ⟨by omega, by omega⟩)
    push_cast
    linarith
  omega

/-- A result that is clear of a half from below is not. -/
theorem halfUp_le_of_le (h : IsRounded u z) (hu : |u| ≤ 2 ^ 52) (hn : n < 2 ^ 50)
    (hle : u ≤ n + 1 / 2 - gap n) : wholePart (z + 0.5) ≤ n := by
  obtain ⟨⟨hhalf, hwhole⟩, -⟩ := representable_near hn
  have hcount : wholePart (z + 0.5) < (n : ℤ) + 1 := by
    apply h.halfUp_lt hu (gap_pos n)
    · convert hhalf using 1
      push_cast
      ring
    · convert hwhole using 1
      push_cast
      ring
    · push_cast
      linarith
  omega

/-- Below zero, a half goes to the count that is nearer to zero. -/
theorem neg_le_halfUp_of_le (h : IsRounded (-u) z) (hu : |u| ≤ 2 ^ 52) (hn : n < 2 ^ 50)
    (hle : u ≤ n + 1 / 2) : -(n : ℤ) ≤ wholePart (z + 0.5) := by
  apply h.le_halfUp (by rwa [abs_neg]) (abs_lt.mpr ⟨by omega, by omega⟩)
  push_cast
  linarith

theorem halfUp_lt_neg_of_le (h : IsRounded (-u) z) (hu : |u| ≤ 2 ^ 52) (hn : n < 2 ^ 50)
    (hle : (n : ℚ) + 1 / 2 + gap n ≤ u) : wholePart (z + 0.5) < -(n : ℤ) := by
  obtain ⟨-, hhalf, hwhole⟩ := representable_near hn
  apply h.halfUp_lt (by rwa [abs_neg]) (gap_pos n)
  · convert hhalf.neg using 1
    push_cast
    ring
  · convert hwhole.neg using 1
    push_cast
    ring
  · push_cast
    linarith

/-! ## The nearest double to a half -/

/-- The half above a whole number as an even significand, which has more than the leading bit
unless the number is zero. -/
theorem exists_significand (hn : n < 2 ^ 50) :
    ∃ a : ℕ, 2 ^ 52 ≤ 2 * a ∧ 2 * a < 2 ^ 53 ∧ (n ≠ 0 → 2 ^ 52 < 2 * a) ∧
      (n : ℚ) + 1 / 2 = 2 * a * gap n := by
  have hlog := log2_le hn
  have hhalf := half_eq_gap hn
  have hlow : 2 ^ (2 * n + 1).log2 ≤ 2 * n + 1 := Nat.log2_self_le (Nat.succ_ne_zero _)
  have hhigh : 2 * n + 1 < 2 ^ ((2 * n + 1).log2 + 1) := Nat.lt_log2_self
  generalize (2 * n + 1).log2 = l at hlog hhalf hlow hhigh
  have hshift : 2 ^ (52 - l) = 2 * 2 ^ (51 - l) := by
    rw [← Nat.pow_succ', show (51 - l).succ = 52 - l by omega]
  have hfirst : 2 ^ l * 2 ^ (52 - l) = 2 ^ 52 := by
    rw [← Nat.pow_add, show l + (52 - l) = 52 by omega]
  have hlast : 2 ^ (l + 1) * 2 ^ (52 - l) = 2 ^ 53 := by
    rw [← Nat.pow_add, show l + 1 + (52 - l) = 53 by omega]
  have hpos : 0 < 2 ^ (52 - l) := Nat.two_pow_pos _
  have htwice : 2 * ((2 * n + 1) * 2 ^ (51 - l)) = (2 * n + 1) * 2 ^ (52 - l) := by
    rw [hshift]
    ring
  refine ⟨(2 * n + 1) * 2 ^ (51 - l), ?_, ?_, ?_, ?_⟩
  · rw [htwice, ← hfirst]
    exact Nat.mul_le_mul_right _ hlow
  · rw [htwice, ← hlast]
    exact Nat.mul_lt_mul_of_pos_right hhigh hpos
  · intro hne
    rw [htwice, ← hfirst]
    refine Nat.mul_lt_mul_of_pos_right (lt_of_le_of_ne hlow ?_) hpos
    -- an odd number above one is no power of two
    intro heq
    obtain ⟨l, rfl⟩ : ∃ k, l = k + 1 := Nat.exists_eq_succ_of_ne_zero (by
      rintro rfl
      omega)
    rw [Nat.pow_succ] at heq
    omega
  · have hnat : (2 : ℚ) * ((2 * n + 1) * 2 ^ (51 - l) : ℕ) = (2 * n + 1) * (2 ^ (52 - l) : ℕ) := by
      exact_mod_cast htwice
    rw [hnat, mul_assoc, ← hhalf]
    ring

section

variable {u r : ℚ}

/-- Above a half, the middle to the next double goes to the half. -/
theorem RoundsToNearest.above_half (h : RoundsToNearest u r) (hn : n < 2 ^ 50) :
    (u ≤ n + 1 / 2 + gap n / 2 → r ≤ n + 1 / 2) ∧
      (n + 1 / 2 + gap n / 2 < u → n + 1 / 2 + gap n ≤ r) := by
  obtain ⟨a, hlow, hhigh, -, hhalf⟩ := exists_significand hn
  obtain ⟨hbelow, hmiddle, habove⟩ := h (2 * a) ((2 * n + 1).log2 - 53) hlow hhigh (by omega)
  rw [Nat.mul_mod_right, Nat.add_zero] at hmiddle
  rw [← gap] at hbelow hmiddle habove
  push_cast at hbelow hmiddle habove
  constructor
  · intro hle
    rcases hle.lt_or_eq with hlt | heq
    · linarith [hbelow (by linarith)]
    · linarith [hmiddle (by linarith)]
  · intro hlt
    linarith [habove (by linarith)]

theorem gap_zero : gap 0 = 2 ^ (-53 : ℤ) := rfl

/-- Below a half, the middle to the double before goes to the half. Only below the first half are
doubles twice as dense, and there a number may not lie between the two before the half. -/
theorem RoundsToNearest.below_half (h : RoundsToNearest u r) (hn : n < 2 ^ 50)
    (hclear : n = 0 → u ≤ 1 / 2 - gap 0 ∨ 1 / 2 - gap 0 / 4 ≤ u) :
    (u < n + 1 / 2 - gap n / 2 → r ≤ n + 1 / 2 - gap n) ∧
      (n + 1 / 2 - gap n / 2 ≤ u → n + 1 / 2 ≤ r) := by
  rcases Nat.eq_zero_or_pos n with rfl | hpos
  · have hclear := hclear rfl
    obtain ⟨hbelow, -, -⟩ := h (2 ^ 53 - 2) (-54) (by decide) (by decide) (by decide)
    obtain ⟨-, hmiddle, habove⟩ := h (2 ^ 53 - 1) (-54) (by decide) (by decide) (by decide)
    rw [gap_zero] at hclear ⊢
    norm_num at hbelow hmiddle habove hclear ⊢
    constructor
    · intro hlt
      rcases hclear with hle | hge
      · exact hbelow (by linarith)
      · linarith
    · intro hle
      rcases hclear with hle' | hge
      · linarith
      · rcases hge.lt_or_eq with hlt | heq
        · exact habove hlt
        · exact (hmiddle heq.symm).ge
  · obtain ⟨a, -, hhigh, hlow, hhalf⟩ := exists_significand hn
    have hlow := hlow hpos.ne'
    obtain ⟨b, hb⟩ : ∃ b, 2 * a = b + 1 := Nat.exists_eq_succ_of_ne_zero (by omega)
    have hb' : (2 : ℚ) * a = b + 1 := by exact_mod_cast hb
    have hodd : b + b % 2 = b + 1 := by omega
    rw [hb'] at hhalf
    obtain ⟨hbelow, hmiddle, habove⟩ :=
      h b ((2 * n + 1).log2 - 53) (by omega) (by omega) (by omega)
    rw [hodd] at hmiddle
    rw [← gap] at hbelow hmiddle habove
    push_cast at hmiddle
    constructor
    · intro hlt
      linarith [hbelow (by linarith)]
    · intro hle
      rcases hle.lt_or_eq with hlt | heq
      · linarith [habove (by linarith)]
      · linarith [hmiddle (by linarith)]

variable {z : Float}

theorem abs_le_of_isNearest (h : IsNearest u z) (hu : |u| ≤ 2 ^ 52) : |exactValue z| ≤ 2 ^ 52 :=
  h.abs_exactValue_le ⟨2 ^ 52, 0, by norm_num, by decide, le_rfl, by norm_num⟩ hu

/-- What is counted for the next whole number: all from the middle before the half on. -/
theorem lt_halfUp_iff (h : IsNearest u z) (hnonneg : 0 ≤ u) (hu : |u| ≤ 2 ^ 52) (hn : n < 2 ^ 50)
    (hclear : n = 0 → u ≤ 1 / 2 - gap 0 ∨ 1 / 2 - gap 0 / 4 ≤ u) :
    (n : ℤ) < wholePart (z + 0.5) ↔ (n : ℚ) + 1 / 2 - gap n / 2 ≤ u := by
  obtain ⟨hbelow, habove⟩ := (h.of_nonneg hnonneg).below_half hn hclear
  have hself : IsRounded (exactValue z) z := ⟨h.isFinite, .refl _⟩
  have hvalue := abs_le_of_isNearest h hu
  constructor
  · intro hlt
    by_contra hnot
    have hcount := halfUp_le_of_le hself hvalue hn (hbelow (not_le.mp hnot))
    omega
  · intro hle
    exact lt_halfUp_of_le hself hvalue hn (habove hle)

/-- Below zero, what is counted for the next whole number: all beyond the middle behind the half. -/
theorem halfUp_lt_neg_iff (h : IsNearest (-u) z) (hnonneg : 0 ≤ u) (hu : |u| ≤ 2 ^ 52)
    (hn : n < 2 ^ 50) :
    wholePart (z + 0.5) < -(n : ℤ) ↔ (n : ℚ) + 1 / 2 + gap n / 2 < u := by
  have hnearest := h.of_nonpos (neg_nonpos.mpr hnonneg)
  rw [neg_neg] at hnearest
  obtain ⟨hbelow, habove⟩ := hnearest.above_half hn
  have hself : IsRounded (-(-exactValue z)) z := by
    rw [neg_neg]
    exact ⟨h.isFinite, .refl _⟩
  have hvalue : |(-exactValue z)| ≤ 2 ^ 52 := by
    rw [abs_neg]
    exact abs_le_of_isNearest h (by rwa [abs_neg])
  constructor
  · intro hlt
    by_contra hnot
    have hcount := neg_le_halfUp_of_le hself hvalue hn (hbelow (not_lt.mp hnot))
    omega
  · intro hlt
    exact halfUp_lt_neg_of_le hself hvalue hn (habove hlt)

end

end

end RomanCalc.Number
