import RomanCalc.Numeral.Display
import RomanCalc.Proofs.Numeral.Ranks
import RomanCalc.Proofs.Uncia.Twelfths
import RomanCalc.Uncia.Text

/-!
# Which numbers can be written

A finite number has a numeral up to a whole part of the largest one, and a numeral with glyphs up
to the same whole part of its magnitude once its twelfths are counted (`BeyondNumerals`). The
twelfths of a finite number can always be counted (`isCounted_magnitude`).
-/

namespace RomanCalc

/-- A number without its sign. -/
def magnitude (x : Float) : Float :=
  if x < 0.0 then -x else x

/-- A value is beyond the numerals if its whole part is, or that of its magnitude is once the
twelfths are counted. -/
def BeyondNumerals (x : Float) : Prop :=
  Numeral.largest < (Number.wholePart x).natAbs ∨
    (Numeral.largest : Int) < Uncia.roundedWhole (magnitude x)

variable {x : Float}

theorem Numeral.ofFloat_of_isFinite (h : x.isFinite = true) :
    Numeral.ofFloat x = Numeral.encodeSigned (Number.wholePart x) := by
  obtain ⟨negative, m, e, hx⟩ := Number.exists_finite h
  unfold Numeral.ofFloat
  rw [hx]

theorem Uncia.ofFloat_of_isFinite (h : x.isFinite = true) :
    Uncia.ofFloat x =
      (Uncia.ofMagnitude (magnitude x)).map fun text => if x < 0.0 then '-' :: text else text := by
  obtain ⟨negative, m, e, hx⟩ := Number.exists_finite h
  unfold Uncia.ofFloat magnitude
  rw [hx]
  by_cases hneg : x < 0.0
  · simp only [if_pos hneg]
  · simp only [if_neg hneg]
    cases Uncia.ofMagnitude x <;> rfl

theorem isFinite_magnitude (h : x.isFinite = true) : (magnitude x).isFinite = true := by
  unfold magnitude
  split
  · rw [Number.isFinite_neg, h]
  · exact h

/-- The value of a number without its sign. -/
theorem exactValue_magnitude (h : x.isFinite = true) :
    Number.exactValue (magnitude x) = |Number.exactValue x| := by
  unfold magnitude
  split
  · next hneg =>
    have hvalue := (Number.lt_zero_iff h).mp hneg
    rw [Number.exactValue_neg, abs_of_neg hvalue]
  · next hnonneg =>
    rw [Number.lt_zero_iff h] at hnonneg
    rw [abs_of_nonneg (not_lt.mp hnonneg)]

/-- The twelfths of a value above the whole part of its magnitude. -/
theorem isNearest_above_magnitude (h : x.isFinite = true) :
    Number.IsNearest (Int.fract |Number.exactValue x| * 12)
      ((magnitude x - Float.ofInt (Number.wholePart (magnitude x))) * 12.0) := by
  rw [← exactValue_magnitude h]
  apply Uncia.isNearest_above (isFinite_magnitude h)
  rw [exactValue_magnitude h]
  exact abs_nonneg _

/-- The twelfths of a value can be counted. -/
theorem isCounted_magnitude (h : x.isFinite = true) : Uncia.IsCounted (magnitude x) := by
  apply Uncia.isCounted (isFinite_magnitude h)
  rw [exactValue_magnitude h]
  exact abs_nonneg _

theorem split_fst_nonneg (h : x.isFinite = true) : 0 ≤ (Uncia.split (magnitude x)).1 := by
  have hwhole : 0 ≤ Number.wholePart (magnitude x) := by
    rw [Number.wholePart_eq, Int.floor_nonneg, exactValue_magnitude h]
    exact abs_nonneg _
  rw [Uncia.split_fst (isCounted_magnitude h), Uncia.roundedWhole]
  split <;> omega

theorem Uncia.ofMagnitude_of_lt (h : (Numeral.largest : Int) < (Uncia.split x).1) :
    Uncia.ofMagnitude x = .error (.numeralTooLarge (Uncia.split x).1.toNat) := by
  have hlargest : (0 : Int) ≤ Numeral.largest := Int.natCast_nonneg _
  have hzero : ¬((Uncia.split x).1 = 0 ∧ ((Uncia.split x).2 : Nat) = 0) := by omega
  unfold Uncia.ofMagnitude
  simp only [if_neg hzero, Numeral.ofNat_of_lt (Int.lt_toNat.mpr h)]
  rfl

/-- The numeral of the whole part of a number, with the glyphs of its twelfths behind it. -/
def Uncia.written (x : Float) : List Char :=
  Numeral.spell (Numeral.glyphs (Uncia.split x).1.toNat) ++ Uncia.glyphs (Uncia.split x).2

theorem Uncia.ofMagnitude_eq (hle : (Uncia.split x).1 ≤ Numeral.largest) :
    Uncia.ofMagnitude x = .ok (Uncia.written x) := by
  unfold Uncia.ofMagnitude Uncia.written
  simp only [Numeral.ofNat_of_le (Int.toNat_le.mpr hle)]
  split
  · next hzero =>
    have htwelfths : (Uncia.split x).2 = Uncia.noTwelfths := Fin.ext hzero.2
    rw [hzero.1, htwelfths]
    rfl
  · rfl

/-- What is written for a number: its sign, its numeral and its glyphs. -/
theorem Uncia.ofFloat_eq (h : x.isFinite = true)
    (hle : (Uncia.split (magnitude x)).1 ≤ Numeral.largest) :
    Uncia.ofFloat x = .ok (if x < 0.0 then '-' :: Uncia.written (magnitude x)
      else Uncia.written (magnitude x)) := by
  rw [Uncia.ofFloat_of_isFinite h, Uncia.ofMagnitude_eq hle]
  rfl

end RomanCalc
