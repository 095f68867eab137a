import RomanCalc.Proofs.Number.Halves
import RomanCalc.Uncia.Text

/-!
# Counting twelfths

What a number has above its whole part is a double (`exactValue_above`), and only its twelfths are
rounded (`isNearest_above`). There are at most twelve of them, also after the count is rounded
(`isCounted`). So a count that is not carried has glyphs, and the carry adds one to the whole part
or nothing (`split_fst`).
-/

namespace RomanCalc.Uncia

open Number

theorem exactValue_twelve : exactValue 12.0 = 12 := by
  have hunpack : (12.0 : Float).toModel.unpack =
      .finite .positive (3 * 2 ^ 51) (-49) (by decide) := by rfl
  unfold exactValue
  rw [hunpack]
  norm_num [rational]

/-- The nearest count of twelfths to what a number has above its whole part. -/
def twelfthsAbove (x : Float) : Int :=
  wholePart ((x - Float.ofInt (wholePart x)) * 12.0 + 0.5)

/-- The whole part of a number, or the next one where twelve twelfths are counted above it. -/
def roundedWhole (x : Float) : Int :=
  if twelfthsAbove x = 12 then wholePart x + 1 else wholePart x

/-- The twelfths above the whole part of a number can be counted, and there are none to twelve. -/
structure IsCounted (x : Float) : Prop where
  rounded : roundHalfUp ((x - Float.ofInt (wholePart x)) * 12.0) = .ok (twelfthsAbove x)
  nonneg : 0 ≤ twelfthsAbove x
  le_twelve : twelfthsAbove x ≤ 12

section

variable {x : Float}

/-- A number above its whole part. -/
theorem exactValue_above (hfinite : x.isFinite = true) (hx : 0 ≤ exactValue x) :
    (x - Float.ofInt (wholePart x)).isFinite = true ∧
      exactValue (x - Float.ofInt (wholePart x)) = Int.fract (exactValue x) := by
  obtain ⟨hwhole, hexact⟩ := exactValue_ofInt_wholePart hfinite hx
  have hfract : exactValue x - exactValue (Float.ofInt (wholePart x)) =
      Int.fract (exactValue x) := by
    rw [hexact, wholePart_eq]
    rfl
  have hrounded := IsRounded.sub hfinite hwhole (by
    rw [hfract, abs_of_nonneg (Int.fract_nonneg _)]
    exact lt_trans (Int.fract_lt_one _) (by norm_num))
  rw [hfract] at hrounded
  exact ⟨hrounded.isFinite, hrounded.exactValue_eq (representable_fract hfinite hx)⟩

/-- Twelve times a double is not next to a half: so close to it doubles are a whole number of steps,
and no number of triple steps is. -/
theorem twelve_mul_clear (hfinite : x.isFinite = true) :
    12 * exactValue x ≤ 1 / 2 - gap 0 ∨ 1 / 2 - gap 0 / 4 ≤ 12 * exactValue x := by
  have hgap : gap 0 = 1 / 2 ^ 53 := by
    rw [gap_zero]
    norm_num
  rw [hgap]
  rcases lt_or_ge (exactValue x) (2 ^ 52 / 2 ^ 57) with hsmall | hlarge
  · left
    norm_num at hsmall ⊢
    linarith
  · obtain ⟨j, hj⟩ := exists_steps hfinite 57 hlarge
    have htriple : 3 * j + 4 ≤ 2 ^ 54 ∨ 2 ^ 54 ≤ 3 * j + 1 := by omega
    rw [hj]
    rcases htriple with hle | hge
    · left
      have hle' : (3 : ℚ) * j + 4 ≤ 2 ^ 54 := by exact_mod_cast hle
      norm_num at hle' ⊢
      linarith
    · right
      have hge' : (2 : ℚ) ^ 54 ≤ 3 * j + 1 := by exact_mod_cast hge
      norm_num at hge' ⊢
      linarith

theorem abs_twelve_fract_le (v : ℚ) : |Int.fract v * 12| ≤ 2 ^ 52 := by
  have hnonneg := Int.fract_nonneg v
  have hlt := Int.fract_lt_one v
  rw [abs_le]
  constructor <;> linarith

/-- The twelfths of a number above its whole part. -/
theorem isNearest_above (hfinite : x.isFinite = true) (hx : 0 ≤ exactValue x) :
    IsNearest (Int.fract (exactValue x) * 12) ((x - Float.ofInt (wholePart x)) * 12.0) := by
  obtain ⟨habove, hexact⟩ := exactValue_above hfinite hx
  rw [← hexact, ← exactValue_twelve]
  refine .mul habove (by rfl) ?_
  rw [hexact, exactValue_twelve]
  exact lt_of_le_of_lt (abs_twelve_fract_le _) (by norm_num)

theorem isCounted (hfinite : x.isFinite = true) (hx : 0 ≤ exactValue x) : IsCounted x := by
  have hnonneg := Int.fract_nonneg (exactValue x)
  have hlt := Int.fract_lt_one (exactValue x)
  have hrounded := (isNearest_above hfinite hx).toIsRounded
  have hbound := abs_twelve_fract_le (exactValue x)
  refine ⟨floor_eq_ok (hrounded.add_half hbound).isFinite, ?_, ?_⟩
  · apply hrounded.le_halfUp hbound (by decide)
    rw [Int.cast_zero]
    linarith
  · have hgap := gap_lt_half (show 12 < 2 ^ 50 by decide)
    apply halfUp_le_of_le (n := 12) hrounded hbound (by decide)
    push_cast
    linarith

end

/-- The whole part after the carry. -/
theorem split_fst {x : Float} (h : IsCounted x) : (split x).1 = roundedWhole x := by
  have hnonneg := h.nonneg
  have hle := h.le_twelve
  change wholePart x + twelfthsAbove x / 12 = roundedWhole x
  unfold roundedWhole
  split <;> omega

end RomanCalc.Uncia
