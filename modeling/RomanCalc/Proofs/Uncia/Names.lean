import RomanCalc.Proofs.Uncia.Reading

/-!
# The names of twelfths

The glyphs that a number is written with are those of the twelfths of its magnitude
(`exists_written`), and its Latin name is counted from the whole number below it. For numbers that
are not below zero the name is that of the glyphs. Below zero it is that of the twelfths that are
missing to the next whole (`fractionName_by_sign`).
-/

namespace RomanCalc.Uncia

open Number

variable {x : Float}

theorem wholePart_magnitude (h : x.isFinite = true) :
    wholePart (magnitude x) = ⌊|exactValue x|⌋ := by
  rw [wholePart_eq, exactValue_magnitude h]

/-- A number below the largest numeral has a text: what stands in front of its glyphs has no
marks. -/
theorem exists_written (hfinite : x.isFinite = true) (hlt : |exactValue x| < 399999) :
    ∃ m, Markless m ∧ ofFloat x = .ok (m ++ glyphs (split (magnitude x)).2) := by
  have hwhole : wholePart (magnitude x) < 399999 := by
    rw [wholePart_magnitude hfinite, Int.floor_lt]
    exact_mod_cast hlt
  have hle : (split (magnitude x)).1 ≤ Numeral.largest := by
    rw [split_fst (isCounted_magnitude hfinite), roundedWhole, Numeral.largest]
    split <;> omega
  have hspell := markless_spell (Numeral.glyphs (split (magnitude x)).1.toNat)
  rw [ofFloat_eq hfinite hle, written]
  split
  · exact ⟨_, List.forall_mem_cons.mpr ⟨rfl, hspell⟩, rfl⟩
  · exact ⟨_, hspell, rfl⟩

theorem fractionName_of_isFinite (h : x.isFinite = true) :
    fractionName (.real x) = .ok (name (split x).2) := by
  rw [fractionName, floor_eq_ok h]
  rfl

theorem magnitude_of_nonneg (h : ¬x < 0.0) : magnitude x = x :=
  if_neg h

/-! ## Counting from below -/

/-- What a number has above the whole number below it, which need not be a double. -/
theorem isRounded_above_floor (hfinite : x.isFinite = true) (hlt : |exactValue x| < 399999) :
    IsRounded (Int.fract (exactValue x)) (x - Float.ofInt (wholePart x)) := by
  obtain ⟨hlow, hhigh⟩ := abs_lt.mp hlt
  have hwhole : |wholePart x| < 2 ^ 53 := by
    have hfloor : -399999 ≤ ⌊exactValue x⌋ := Int.le_floor.mpr (by exact_mod_cast hlow.le)
    have hfloor' : ⌊exactValue x⌋ < 399999 := Int.floor_lt.mpr (by exact_mod_cast hhigh)
    rw [wholePart_eq, abs_lt]
    constructor <;> omega
  have hfract : exactValue x - exactValue (Float.ofInt (wholePart x)) =
      Int.fract (exactValue x) := by
    rw [exactValue_ofInt hwhole, wholePart_eq]
    rfl
  rw [← hfract]
  refine .sub hfinite (isFinite_ofInt hwhole) ?_
  rw [hfract, abs_of_nonneg (Int.fract_nonneg _)]
  exact lt_trans (Int.fract_lt_one _) (by norm_num)

/-- A number of twelfths that is clear of the halves is counted as the nearest one. -/
theorem halfUp_eq {u : ℚ} {z : Float} (h : IsRounded u z) {k : ℤ} (hk : 0 ≤ k) (hk' : k ≤ 12)
    (hlow : (k : ℚ) - 1 / 2 ≤ u) (hhigh : u ≤ k + 1 / 2 - 1 / 2 ^ 48) :
    wholePart (z + 0.5) = k := by
  obtain ⟨n, rfl⟩ := Int.eq_ofNat_of_zero_le hk
  have hn : n ≤ 12 := by omega
  have hn0 : (0 : ℚ) ≤ n := Nat.cast_nonneg n
  have hn12 : (n : ℚ) ≤ 12 := by exact_mod_cast hn
  rw [Int.cast_natCast] at hlow hhigh
  have hu : |u| ≤ 2 ^ 52 := by
    rw [abs_le]
    constructor <;> linarith
  have hgap : gap n ≤ 1 / 2 ^ 48 := by
    calc gap n ≤ gap 12 := gap_mono hn
      _ ≤ ((12 : ℕ) + 1 / 2) / 2 ^ 52 := gap_le 12
      _ ≤ 1 / 2 ^ 48 := by norm_num
  have hle : (n : ℤ) ≤ wholePart (z + 0.5) :=
    h.le_halfUp hu (abs_lt.mpr ⟨by omega, by omega⟩) (by exact_mod_cast hlow)
  have hge : wholePart (z + 0.5) ≤ n := halfUp_le_of_le h hu (by omega) (by linarith)
  omega

/-- The count is that of the exact twelfths where these are clear of the halves by more than the two
roundings take away. -/
theorem twelfthsAbove_eq (hfinite : x.isFinite = true) (hlt : |exactValue x| < 399999) {k : ℤ}
    (hk : 0 ≤ k) (hk' : k ≤ 12)
    (hlow : (k : ℚ) - 1 / 2 + 1 / 2 ^ 46 ≤ Int.fract (exactValue x) * 12)
    (hhigh : Int.fract (exactValue x) * 12 ≤ k + 1 / 2 - 1 / 2 ^ 46) : twelfthsAbove x = k := by
  have habove := isRounded_above_floor hfinite hlt
  have hnonneg := Int.fract_nonneg (exactValue x)
  have hlt_one := Int.fract_lt_one (exactValue x)
  have herror := habove.abs_sub_le (show 50 ≤ 1074 by decide) (by
    rw [abs_of_nonneg hnonneg]
    linarith)
  obtain ⟨herror_low, herror_high⟩ := abs_le.mp herror
  have htwelve : IsRounded (exactValue (x - Float.ofInt (wholePart x)) * 12)
      ((x - Float.ofInt (wholePart x)) * 12.0) := by
    rw [← exactValue_twelve]
    refine .mul habove.isFinite (by rfl) ?_
    rw [exactValue_twelve, abs_lt]
    constructor <;> linarith
  apply halfUp_eq htwelve hk hk' <;> linarith

/-- The twelfths of a number are clear of the halves between two counts. -/
def IsClearOfHalves (x : Float) : Prop :=
  ∀ n : ℤ, 1 / 2 ^ 46 ≤ |12 * |exactValue x| - (n + 1 / 2)|

theorem exists_nearest (h : IsClearOfHalves x) :
    ∃ k : ℤ, 0 ≤ k ∧ k ≤ 12 ∧ (k : ℚ) - 1 / 2 + 1 / 2 ^ 46 ≤ Int.fract |exactValue x| * 12 ∧
      Int.fract |exactValue x| * 12 ≤ k + 1 / 2 - 1 / 2 ^ 46 := by
  have hparts := Int.floor_add_fract |exactValue x|
  have hnonneg := Int.fract_nonneg |exactValue x|
  have hlt_one := Int.fract_lt_one |exactValue x|
  have hbelow := Int.floor_le (Int.fract |exactValue x| * 12 + 1 / 2)
  have habove := Int.lt_floor_add_one (Int.fract |exactValue x| * 12 + 1 / 2)
  have hk : 0 ≤ ⌊Int.fract |exactValue x| * 12 + 1 / 2⌋ := Int.floor_nonneg.mpr (by linarith)
  have hk' : ⌊Int.fract |exactValue x| * 12 + 1 / 2⌋ < 13 := Int.floor_lt.mpr (by
    push_cast
    linarith)
  generalize ⌊Int.fract |exactValue x| * 12 + 1 / 2⌋ = k at hbelow habove hk hk'
  refine ⟨k, hk, by omega, ?_, ?_⟩
  · have hclear := h (12 * ⌊|exactValue x|⌋ + k - 1)
    push_cast at hclear
    rw [abs_of_nonneg (by linarith)] at hclear
    linarith
  · have hclear := h (12 * ⌊|exactValue x|⌋ + k)
    push_cast at hclear
    rw [abs_of_nonpos (by linarith)] at hclear
    linarith

/-- The twelfths that are missing to the next whole. -/
theorem neg_ofNat {k : ℤ} (hk : 0 ≤ k) (hk' : k ≤ 12) :
    Twelfths.ofNat ((12 - k) % 12).toNat = -Twelfths.ofNat (k % 12).toNat := by
  interval_cases k <;> rfl

/-- Below zero, the twelfths that are counted from the whole number below are those that are missing
to the next whole. -/
theorem split_below_zero (hfinite : x.isFinite = true) (hlt : |exactValue x| < 399999)
    (hneg : x < 0.0) (hclear : IsClearOfHalves x) : (split x).2 = -(split (magnitude x)).2 := by
  obtain ⟨k, hk, hk', hlow, hhigh⟩ := exists_nearest hclear
  have hmagnitude : twelfthsAbove (magnitude x) = k := by
    apply halfUp_eq (isNearest_above_magnitude hfinite).toIsRounded hk hk' <;> linarith
  have hvalue : exactValue x = -|exactValue x| := by
    rw [abs_of_neg ((lt_zero_iff hfinite).mp hneg), neg_neg]
  change Twelfths.ofNat (twelfthsAbove x % 12).toNat =
    -Twelfths.ofNat (twelfthsAbove (magnitude x) % 12).toNat
  rw [hmagnitude, ← neg_ofNat hk hk']
  by_cases hfract : Int.fract |exactValue x| = 0
  · -- nothing is missing to a whole number, and nothing is counted above it
    have hzero : Int.fract (exactValue x) = 0 := by
      rw [hvalue, Int.fract_neg_eq_zero]
      exact hfract
    have hcount : twelfthsAbove x = 0 := by
      apply twelfthsAbove_eq hfinite hlt le_rfl (by decide) <;> rw [hzero] <;> norm_num
    obtain rfl : k = 0 := by
      have hlt_one : (k : ℚ) < 1 := by
        rw [hfract] at hlow
        linarith
      have : k < 1 := by exact_mod_cast hlt_one
      omega
    rw [hcount]
    rfl
  · have hmissing := Int.fract_neg hfract
    rw [← hvalue] at hmissing
    have hcount : twelfthsAbove x = 12 - k := by
      apply twelfthsAbove_eq hfinite hlt (by omega) (by omega) <;> rw [hmissing] <;> push_cast <;>
        linarith
    rw [hcount]

/-- A number has the name of the glyphs that it is written with if it is not below zero. Below zero
it has the name of the twelfths that are missing to the next whole. -/
theorem fractionName_by_sign (hfinite : x.isFinite = true) (hlt : |exactValue x| < 399999) :
    ∃ text t, ofFloat x = .ok text ∧ EndsIn text t ∧ (∀ u, EndsIn text u → u = t) ∧
      (¬x < 0.0 → fractionName (.real x) = .ok (name t)) ∧
      (x < 0.0 → IsClearOfHalves x → fractionName (.real x) = .ok (name (-t))) := by
  obtain ⟨m, hm, htext⟩ := exists_written hfinite hlt
  have hends := endsIn_append hm (split (magnitude x)).2
  refine ⟨_, _, htext, hends, fun u hu => hends.unique hu, ?_, ?_⟩
  · intro hnonneg
    rw [fractionName_of_isFinite hfinite, magnitude_of_nonneg hnonneg]
  · intro hneg hclear
    rw [fractionName_of_isFinite hfinite, split_below_zero hfinite hlt hneg hclear]

theorem endsIn_quadrans : EndsIn ['-', 'I', '∴'] (Twelfths.ofNat 3) :=
  endsIn_append (m := ['-', 'I']) (by simp [Markless, Mark.ofChar?]) (Twelfths.ofNat 3)

theorem exactValue_five_quarters : exactValue 1.25 = 5 / 4 := by
  have hunpack : (1.25 : Float).toModel.unpack =
      .finite .positive (5 * 2 ^ 50) (-52) (by decide) := by rfl
  unfold exactValue
  rw [hunpack]
  norm_num [rational]

/-- One and a quarter, with a minus sign. -/
theorem fractionName_by_sign_dodrans :
    ((-1.25 : Float).isFinite = true ∧ |exactValue (-1.25)| < 399999 ∧ (-1.25 : Float) < 0.0 ∧
      IsClearOfHalves (-1.25)) ∧
    ofFloat (-1.25) = .ok ['-', 'I', '∴'] ∧ EndsIn ['-', 'I', '∴'] (Twelfths.ofNat 3) ∧
      fractionName (.real (-1.25)) = .ok (name (-Twelfths.ofNat 3)) := by
  have hvalue : |exactValue (-1.25)| = 5 / 4 := by
    rw [exactValue_neg, exactValue_five_quarters]
    norm_num
  have hlt : |exactValue (-1.25)| < 399999 := by
    rw [hvalue]
    norm_num
  have hneg : (-1.25 : Float) < 0.0 := by decide
  have hclear : IsClearOfHalves (-1.25) := by
    intro n
    rw [hvalue, le_abs]
    rcases lt_or_ge n 15 with hbelow | habove
    · left
      have hn : (n : ℚ) ≤ 14 := by exact_mod_cast Int.le_of_lt_add_one hbelow
      linarith
    · right
      have hn : (15 : ℚ) ≤ n := by exact_mod_cast habove
      linarith
  have hwritten : ofFloat (-1.25) = .ok ['-', 'I', '∴'] := rfl
  obtain ⟨text, t, htext, -, hunique, -, hname⟩ := fractionName_by_sign (x := -1.25) rfl hlt
  obtain rfl := Except.ok.inj (hwritten.symm.trans htext)
  obtain rfl := hunique _ endsIn_quadrans
  exact ⟨⟨rfl, hlt, hneg, hclear⟩, hwritten, endsIn_quadrans, hname hneg hclear⟩

/-- Below zero, the name need not be that of the glyphs. -/
theorem fractionName_below_zero :
    ofFloat (-1.25) = .ok ['-', 'I', '∴'] ∧ EndsIn ['-', 'I', '∴'] (Twelfths.ofNat 3) ∧
      fractionName (.real (-1.25)) = .ok "dodrans" ∧ name (Twelfths.ofNat 3) = "quadrans" := by
  have hsplit : split (-1.25) = (-2, Twelfths.ofNat 9) := by decide +kernel
  refine ⟨rfl, endsIn_quadrans, ?_, rfl⟩
  rw [fractionName_of_isFinite rfl, hsplit]
  rfl

end RomanCalc.Uncia
