import RomanCalc.Proofs.Number.Overflow
import RomanCalc.Proofs.Uncia.Written

/-!
# Numerals of whole numbers of any size

On its way to the display a whole number becomes a double. This keeps the numbers that have no more
bits than a significand (`wholePart_ofInt`), and it leaves the others far beyond the largest numeral
(`le_natAbs_wholePart_ofInt`). So a whole number has the numeral of its own magnitude or is reported
as too large, as long as there is a double for it; where there is none the conversion fails before
the number is compared with the largest numeral (`ofDatum_by_size`).
-/

namespace RomanCalc.Numeral

open Number

variable {n : ℤ}

/-! ## Whole parts of converted numbers -/

theorem wholePart_ofInt (h : n.natAbs < 2 ^ 53) : wholePart (Float.ofInt n) = n := by
  have habs : |n| < 2 ^ 53 := by
    rw [Int.abs_eq_natAbs]
    exact_mod_cast h
  rw [wholePart_eq, exactValue_ofInt habs, Int.floor_intCast]

theorem le_natAbs_wholePart_ofInt (h : 2 ^ 53 ≤ n.natAbs) (hlt : n.natAbs < leastOverflow) :
    2 ^ 53 ≤ (wholePart (Float.ofInt n)).natAbs := by
  rw [wholePart_eq]
  rcases le_abs.mp (le_exactValue_ofInt h hlt) with hpos | hneg
  · have hfloor : 2 ^ 53 ≤ ⌊exactValue (Float.ofInt n)⌋ :=
      Int.le_floor.mpr (by exact_mod_cast hpos)
    omega
  · have hfloor : (⌊exactValue (Float.ofInt n)⌋ : ℚ) ≤ ((-2 ^ 53 : ℤ) : ℚ) := by
      refine le_trans (Int.floor_le _) ?_
      push_cast
      linarith
    have hfloor' : ⌊exactValue (Float.ofInt n)⌋ ≤ -2 ^ 53 := by exact_mod_cast hfloor
    omega

/-- All doubles end long before the numbers whose digits cannot be written. -/
theorem natAbs_wholePart_lt {x : Float} (h : x.isFinite = true) :
    (wholePart x).natAbs < 10 ^ maxIntegerDigits := by
  refine lt_pow_maxIntegerDigits ?_ (by decide : 1024 ≤ maxIntegerDigits)
  obtain ⟨hlow, hhigh⟩ := abs_lt.mp (abs_exactValue_lt h)
  have hfloor : -2 ^ 1024 ≤ wholePart x ∧ wholePart x < 2 ^ 1024 := by
    rw [wholePart_eq]
    exact ⟨Int.le_floor.mpr (by exact_mod_cast hlow.le), Int.floor_lt.mpr (by exact_mod_cast hhigh)⟩
  have hpow : (2 : ℤ) ^ 1024 < 10 ^ 1024 := pow_lt_pow_left₀ (by decide) (by decide) (by decide)
  omega

/-! ## What is shown for a whole number -/

/-- A whole number is shown as its double is written, behind a minus sign if this is below zero. -/
theorem ofDatum_of_lt (h : n.natAbs < leastOverflow) :
    ofDatum (.integer n) =
      (encode (wholePart (Float.ofInt n)).natAbs).map fun text =>
        if wholePart (Float.ofInt n) < 0 then '-' :: text else text := by
  have hfinite := (isFinite_ofInt_iff n).mpr h
  unfold ofDatum
  simp only [ofInt?_eq, if_pos h]
  rw [ofFloat_of_isFinite hfinite, encodeSigned_eq (natAbs_wholePart_lt hfinite)]

theorem ofDatum_of_overflow (h : leastOverflow ≤ n.natAbs) :
    ofDatum (.integer n) = .error .integerTooLarge := by
  unfold ofDatum
  simp only [ofInt?_eq, if_neg (Nat.not_lt.mpr h)]

/-- A whole number up to the largest numeral is shown as the numeral of its magnitude, behind a
minus sign if it is below zero. Beyond, it is reported as too large, by its own magnitude where its
double keeps it, unless it is beyond all doubles: then the conversion fails, and nothing is reported
of the numeral. -/
theorem ofDatum_by_size (n : ℤ) :
    (n.natAbs ≤ 399999 →
        ∃ text, encode n.natAbs = .ok text ∧
          ofDatum (.integer n) = .ok (if n < 0 then '-' :: text else text)) ∧
      (400000 ≤ n.natAbs → n.natAbs < leastOverflow →
        ∃ m, 400000 ≤ m ∧ (n.natAbs < 2 ^ 53 → m = n.natAbs) ∧
          ofDatum (.integer n) = .error (.fault (.numeralTooLarge m))) ∧
      (leastOverflow ≤ n.natAbs → ofDatum (.integer n) = .error .integerTooLarge) := by
  refine ⟨?_, ?_, ofDatum_of_overflow⟩
  · intro hle
    have hsmall : n.natAbs < 2 ^ 53 := by omega
    have hencode := encode_of_le (Int.ofNat_le.mpr hle)
    refine ⟨_, hencode, ?_⟩
    rw [ofDatum_of_lt (lt_leastOverflow hsmall), wholePart_ofInt hsmall, hencode]
    rfl
  · intro hlarge hlt
    have hwhole : 400000 ≤ (wholePart (Float.ofInt n)).natAbs := by
      rcases Nat.lt_or_ge n.natAbs (2 ^ 53) with hkept | hrounded
      · rwa [wholePart_ofInt hkept]
      · exact le_trans (by decide) (le_natAbs_wholePart_ofInt hrounded hlt)
    have hdigits := natAbs_wholePart_lt ((isFinite_ofInt_iff n).mpr hlt)
    refine ⟨_, hwhole, fun hkept => by rw [wholePart_ofInt hkept], ?_⟩
    rw [ofDatum_of_lt hlt, encode_of_lt (Int.ofNat_lt.mpr hwhole), Int.toNat_natCast,
      failure_of_lt hdigits]
    rfl

/-- The largest numeral below zero, the first number above the numerals, and the first one below
zero that is beyond all doubles. -/
theorem ofDatum_by_size_largest :
    (-399999 : ℤ).natAbs ≤ 399999 ∧ (400000 : ℤ).natAbs < leastOverflow ∧
      (∃ text, encode 399999 = .ok text ∧ ofDatum (.integer (-399999)) = .ok ('-' :: text)) ∧
      ofDatum (.integer 400000) = .error (.fault (.numeralTooLarge 400000)) ∧
      leastOverflow ≤ (-(leastOverflow : ℤ)).natAbs ∧
      ofDatum (.integer (-leastOverflow)) = .error .integerTooLarge := by
  have hlt : (400000 : ℤ).natAbs < leastOverflow := lt_leastOverflow (by decide)
  have hoverflow : leastOverflow ≤ (-(leastOverflow : ℤ)).natAbs := by
    rw [Int.natAbs_neg, Int.natAbs_natCast]
  obtain ⟨hshown, -, -⟩ := ofDatum_by_size (-399999)
  obtain ⟨-, hreported, -⟩ := ofDatum_by_size 400000
  obtain ⟨-, -, hfailed⟩ := ofDatum_by_size (-leastOverflow)
  obtain ⟨m, -, hm, hfault⟩ := hreported (by decide) hlt
  obtain rfl : m = 400000 := hm (by decide)
  exact ⟨by decide, hlt, hshown (by decide), hfault, hoverflow, hfailed hoverflow⟩

/-- The writer reports a number beyond all doubles as too large; on the display its conversion
fails. -/
theorem ofDatum_beyond_doubles :
    encode (10 ^ 400 : ℕ) = .error (.fault (.numeralTooLarge (10 ^ 400))) ∧
      ofDatum (.integer (10 ^ 400 : ℕ)) = .error .integerTooLarge := by
  have hdigits : 10 ^ 400 < 10 ^ maxIntegerDigits :=
    lt_pow_maxIntegerDigits (by decide +kernel : 10 ^ 400 < 10 ^ 401) (by decide)
  constructor
  · rw [encode_of_lt (by decide +kernel), Int.toNat_natCast, failure_of_lt hdigits]
  · apply ofDatum_of_overflow
    rw [Int.natAbs_natCast]
    decide +kernel

end RomanCalc.Numeral
