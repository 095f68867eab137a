import RomanCalc.Proofs.Uncia.Names

/-!
# Which fractions are kept

Whether a number keeps a fraction is decided by the product with twelve, rounded with its sign, but
glyphs are counted above the whole part of its magnitude. At the half between a whole and a twelfth
beside it the two counts part: the product is rounded more coarsely than what is above the whole
part, and below zero the half itself goes to the other side. So there is a window at each of these
halves (`IsClear`), and exactly the numbers in a window have one count whole and the other not
(`dvd_count_iff`), and keep a fraction without glyphs or have glyphs without keeping one
(`hasFraction_iff_glyphs`).
-/

namespace RomanCalc.Uncia

open Number

/-! ## Two counts -/

section

variable {x : Float}

/-- All twelfths of a number. They are counted with its sign, which is then dropped. -/
def twelfthsOf (x : Float) : Int :=
  if x < 0.0 then -wholePart (x * 12.0 + 0.5) else wholePart (x * 12.0 + 0.5)

/-- Twelve times the magnitude of a number lies in no window where the two counts part. What is
above the whole part is counted for one more from half a `gap` before the half on, where the half is
taken without the wholes, and the product from half a `gap` before the half itself. Below zero the
product is so only beyond half a `gap` behind it. -/
def IsClear (x : Float) : Prop :=
  ∀ n : ℕ, n % 12 = 0 ∨ n % 12 = 11 →
    if x < 0.0 then
      12 * |exactValue x| < n + 1 / 2 - gap (n % 12) / 2 ∨
        n + 1 / 2 + gap n / 2 < 12 * |exactValue x|
    else
      12 * |exactValue x| < n + 1 / 2 - gap n / 2 ∨
        n + 1 / 2 - gap (n % 12) / 2 ≤ 12 * |exactValue x|

/-- The product with twelve is counted for more twelfths than a whole number of them. -/
def CountsInProduct (x : Float) (n : ℕ) : Prop :=
  if x < 0.0 then n + 1 / 2 + gap n / 2 < 12 * |exactValue x|
  else n + 1 / 2 - gap n / 2 ≤ 12 * |exactValue x|

/-- With what is above the whole part, more twelfths are counted than a whole number of them. -/
def CountsAbove (x : Float) (n : ℕ) : Prop :=
  n + 1 / 2 - gap (n % 12) / 2 ≤ 12 * |exactValue x|

/-- Outside of a window the two counts are on the same side of the whole number. -/
theorem isClear_iff :
    IsClear x ↔ ∀ n : ℕ, n % 12 = 0 ∨ n % 12 = 11 → (CountsInProduct x n ↔ CountsAbove x n) := by
  unfold IsClear CountsInProduct CountsAbove
  refine forall₂_congr fun n _ => ?_
  have hgap := gap_mono (Nat.mod_le n 12)
  have hpos := gap_pos n
  have hpos' := gap_pos (n % 12)
  split
  · have himp : n + 1 / 2 + gap n / 2 < 12 * |exactValue x| →
        n + 1 / 2 - gap (n % 12) / 2 ≤ 12 * |exactValue x| := fun h => by linarith
    rw [← not_le]
    tauto
  · have himp : n + 1 / 2 - gap (n % 12) / 2 ≤ 12 * |exactValue x| →
        n + 1 / 2 - gap n / 2 ≤ 12 * |exactValue x| := fun h => by linarith
    rw [← not_le]
    tauto

/-- More is counted only beyond the whole number, and always from the next one on. -/
theorem counts_sides (hlt : |exactValue x| < 399999) (n : ℕ) :
    (CountsInProduct x n ∨ CountsAbove x n → (n : ℚ) < 12 * |exactValue x|) ∧
      (n < 2 ^ 50 → ¬CountsInProduct x n ∨ ¬CountsAbove x n → 12 * |exactValue x| < n + 1) := by
  have hgap := gap_mono (Nat.mod_le n 12)
  have hpos := gap_pos n
  have hpos' := gap_pos (n % 12)
  unfold CountsInProduct CountsAbove
  constructor
  · intro h
    have hreached : n + 1 / 2 - gap n / 2 ≤ 12 * |exactValue x| := by
      rcases h with h | h
      · split at h <;> linarith
      · linarith
    have hle := gap_le n
    linarith
  · intro hn h
    have hhalf := gap_lt_half hn
    rcases h with h | h
    · split at h <;> linarith
    · linarith

theorem abs_twelve_le (hlt : |exactValue x| < 400000) : |12 * exactValue x| ≤ 2 ^ 52 := by
  rw [abs_mul, abs_of_pos (by norm_num : (0 : ℚ) < 12)]
  linarith

theorem isNearest_twelfths (hfinite : x.isFinite = true) (hlt : |exactValue x| < 400000) :
    IsNearest (12 * exactValue x) (x * 12.0) := by
  rw [mul_comm, ← exactValue_twelve]
  refine .mul hfinite (by rfl) ?_
  rw [exactValue_twelve, mul_comm]
  exact lt_of_le_of_lt (abs_twelve_le hlt) (by norm_num)

/-- How many twelfths are counted above the whole part of the magnitude. -/
theorem lt_twelfthsAbove_iff (hfinite : x.isFinite = true) {w k : ℕ}
    (hw : ⌊|exactValue x|⌋ = w) (hk : k < 12) :
    (k : ℤ) < twelfthsAbove (magnitude x) ↔ CountsAbove x (12 * w + k) := by
  have hnonneg : 0 ≤ exactValue (magnitude x) := by
    rw [exactValue_magnitude hfinite]
    exact abs_nonneg _
  obtain ⟨habove, hvalue⟩ := exactValue_above (isFinite_magnitude hfinite) hnonneg
  have hclear := twelve_mul_clear habove
  rw [hvalue, exactValue_magnitude hfinite, mul_comm] at hclear
  have hfract := Int.fract_nonneg |exactValue x|
  have hcount := lt_halfUp_iff (n := k) (isNearest_above_magnitude hfinite) (by positivity)
    (abs_twelve_fract_le _) (by omega) fun _ => hclear
  have hparts := Int.floor_add_fract |exactValue x|
  have hrest : (12 * w + k) % 12 = k := by omega
  rw [hw, Int.cast_natCast] at hparts
  unfold twelfthsAbove CountsAbove
  rw [hcount, hrest]
  push_cast
  constructor <;> intro h <;> linarith

/-- How many twelfths are counted in the product. Below zero its sign turns the halves round. -/
theorem lt_twelfthsOf_iff (hfinite : x.isFinite = true) (hlt : |exactValue x| < 399999) {n : ℕ}
    (hn : n < 2 ^ 50) : (n : ℤ) < twelfthsOf x ↔ CountsInProduct x n := by
  have hlt' : |exactValue x| < 400000 := hlt.trans (by norm_num)
  have hnearest := isNearest_twelfths hfinite hlt'
  have hbound : |12 * (|exactValue x|)| ≤ 2 ^ 52 := by
    rw [abs_mul, abs_abs, ← abs_mul]
    exact abs_twelve_le hlt'
  have hpos : 0 ≤ 12 * |exactValue x| := by positivity
  unfold twelfthsOf CountsInProduct
  by_cases hneg : x < 0.0
  · have hvalue : 12 * exactValue x = -(12 * |exactValue x|) := by
      rw [abs_of_neg ((lt_zero_iff hfinite).mp hneg)]
      ring
    rw [hvalue] at hnearest
    rw [if_pos hneg, if_pos hneg, ← halfUp_lt_neg_iff hnearest hpos hbound hn]
    exact lt_neg
  · have hnonneg : 0 ≤ exactValue x := not_lt.mp ((lt_zero_iff hfinite).not.mp hneg)
    have hclear := twelve_mul_clear hfinite
    rw [← abs_of_nonneg hnonneg] at hnearest hclear
    rw [if_neg hneg, if_neg hneg]
    exact lt_halfUp_iff hnearest hpos hbound hn fun _ => hclear

theorem whole_lt {w : ℕ} (hlt : |exactValue x| < 399999) (hw : ⌊|exactValue x|⌋ = w) :
    w < 399999 := by
  have hfloor : ⌊|exactValue x|⌋ < 399999 := Int.floor_lt.mpr (by exact_mod_cast hlt)
  omega

/-- All twelfths are at least those of the whole part and at most those of the next. -/
theorem twelfthsOf_bounds (hfinite : x.isFinite = true) (hlt : |exactValue x| < 399999) {w : ℕ}
    (hw : ⌊|exactValue x|⌋ = w) : 12 * w ≤ twelfthsOf x ∧ twelfthsOf x ≤ 12 * w + 12 := by
  have hlarge := whole_lt hlt hw
  have hbelow := Int.floor_le |exactValue x|
  have habove := Int.lt_floor_add_one |exactValue x|
  rw [hw, Int.cast_natCast] at hbelow habove
  have hupper : ¬((12 * w + 12 : ℕ) : ℤ) < twelfthsOf x := by
    rw [lt_twelfthsOf_iff hfinite hlt (by omega)]
    intro hcounts
    have hreached := (counts_sides hlt (12 * w + 12)).1 (.inl hcounts)
    push_cast at hreached
    linarith
  refine ⟨?_, by omega⟩
  have hlt' : |exactValue x| < 400000 := hlt.trans (by norm_num)
  have hrounded := (isNearest_twelfths hfinite hlt').toIsRounded
  have hbound := abs_twelve_le hlt'
  unfold twelfthsOf
  by_cases hneg : x < 0.0
  · have hvalue := abs_of_neg ((lt_zero_iff hfinite).mp hneg)
    have hcount : wholePart (x * 12.0 + 0.5) < -(12 * w : ℕ) + 1 := by
      apply hrounded.halfUp_lt hbound (show (0 : ℚ) < 1 / 2 by norm_num)
      · refine ⟨-(12 * w), 0, abs_lt.mpr ⟨by omega, by omega⟩, by decide, le_rfl, ?_⟩
        push_cast
        ring
      · refine ⟨1 - 24 * w, -1, abs_lt.mpr ⟨by omega, by omega⟩, by decide, by decide, ?_⟩
        push_cast
        ring
      · push_cast
        linarith
    rw [if_pos hneg]
    omega
  · have hnonneg : 0 ≤ exactValue x := not_lt.mp ((lt_zero_iff hfinite).not.mp hneg)
    rw [abs_of_nonneg hnonneg] at hbelow
    rw [if_neg hneg]
    apply hrounded.le_halfUp hbound (abs_lt.mpr ⟨by omega, by omega⟩)
    push_cast
    linarith

/-- At the whole numbers below and above all twelfths of a number the counts are on one side. -/
theorem counts_iff_of_ne (hlt : |exactValue x| < 399999) {w : ℕ} (hw : ⌊|exactValue x|⌋ = w)
    {n : ℕ} (hn : n < 12 * w ∨ 12 * w + 12 ≤ n) : CountsInProduct x n ↔ CountsAbove x n := by
  have hlarge := whole_lt hlt hw
  have hbelow := Int.floor_le |exactValue x|
  have habove := Int.lt_floor_add_one |exactValue x|
  rw [hw, Int.cast_natCast] at hbelow habove
  obtain ⟨hlower, hupper⟩ := counts_sides hlt n
  rcases hn with hn | hn
  · have hcast : (n : ℚ) + 1 ≤ 12 * w := by exact_mod_cast hn
    have hall : ¬(¬CountsInProduct x n ∨ ¬CountsAbove x n) := by
      intro hnot
      linarith [hupper (by omega) hnot]
    tauto
  · have hcast : (12 : ℚ) * w + 12 ≤ n := by exact_mod_cast hn
    have hnone : ¬(CountsInProduct x n ∨ CountsAbove x n) := by
      intro hsome
      linarith [hlower hsome]
    tauto

/-- Twelve divides both counts or neither exactly for the numbers that are clear of the windows. -/
theorem dvd_count_iff (hfinite : x.isFinite = true) (hlt : |exactValue x| < 399999) :
    (12 ∣ twelfthsOf x ↔ 12 ∣ twelfthsAbove (magnitude x)) ↔ IsClear x := by
  obtain ⟨w, hw⟩ := Int.eq_ofNat_of_zero_le (Int.floor_nonneg.mpr (abs_nonneg (exactValue x)))
  have hlarge := whole_lt hlt hw
  have hfirst := lt_twelfthsOf_iff hfinite hlt (show 12 * w + 0 < 2 ^ 50 by omega)
  have hlast := lt_twelfthsOf_iff hfinite hlt (show 12 * w + 11 < 2 ^ 50 by omega)
  have hfirst' := lt_twelfthsAbove_iff hfinite hw (show 0 < 12 by decide)
  have hlast' := lt_twelfthsAbove_iff hfinite hw (show 11 < 12 by decide)
  have hclear : IsClear x ↔ (CountsInProduct x (12 * w + 0) ↔ CountsAbove x (12 * w + 0)) ∧
      (CountsInProduct x (12 * w + 11) ↔ CountsAbove x (12 * w + 11)) := by
    rw [isClear_iff]
    constructor
    · intro h
      exact ⟨h _ (by omega), h _ (by omega)⟩
    · rintro ⟨hzero, heleven⟩ n hn
      by_cases hother : n < 12 * w ∨ 12 * w + 12 ≤ n
      · exact counts_iff_of_ne hlt hw hother
      · obtain rfl | rfl : n = 12 * w + 0 ∨ n = 12 * w + 11 := by omega
        · exact hzero
        · exact heleven
  -- beyond the last twelfth in one count is beyond the first one in both
  have hcross : CountsInProduct x (12 * w + 11) ∨ CountsAbove x (12 * w + 11) →
      CountsInProduct x (12 * w + 0) ∧ CountsAbove x (12 * w + 0) := by
    intro hsome
    have hreached := (counts_sides hlt (12 * w + 11)).1 hsome
    have hupper := (counts_sides hlt (12 * w + 0)).2 (by omega)
    push_cast at hreached hupper
    by_contra hnot
    linarith [hupper (not_and_or.mp hnot)]
  have hcounted := isCounted_magnitude hfinite
  have hnonneg := hcounted.nonneg
  have hle := hcounted.le_twelve
  obtain ⟨hlow, hhigh⟩ := twelfthsOf_bounds hfinite hlt hw
  rw [hclear]
  rw [← hfirst, ← hlast, ← hfirst', ← hlast'] at hcross ⊢
  omega

/-! ## The fraction that is kept -/

theorem isRounded_twelfth {n : ℤ} (hn : |n| < 2 ^ 48) :
    IsRounded ((n : ℚ) / 12) (Float.ofInt n / 12.0) := by
  have hn' : |n| < 2 ^ 53 := lt_trans hn (by decide)
  have hbound : |(n : ℚ)| < 2 ^ 48 := by exact_mod_cast hn
  rw [← exactValue_twelve, ← exactValue_ofInt hn']
  refine .div (isFinite_ofInt hn') (by rfl) (by rw [exactValue_twelve]; norm_num) ?_
  rw [exactValue_ofInt hn', exactValue_twelve, abs_div, abs_of_pos (by norm_num : (0 : ℚ) < 12)]
  linarith

/-- A number of twelfths is a whole number where twelve divides it. -/
theorem quotient_bne_wholePart {n : ℤ} (hn : |n| < 2 ^ 48) :
    (Float.ofInt n / 12.0 != Float.ofInt (wholePart (Float.ofInt n / 12.0))) =
      !decide (12 ∣ n) := by
  have hrounded := isRounded_twelfth hn
  obtain ⟨hlow, hhigh⟩ := abs_lt.mp hn
  have hquotient : |n / 12| < 2 ^ 53 := abs_lt.mpr ⟨by omega, by omega⟩
  have hparts : (n : ℚ) = 12 * (n / 12 : ℤ) + (n % 12 : ℤ) := by
    exact_mod_cast (Int.mul_ediv_add_emod n 12).symm
  generalize Float.ofInt n / 12.0 = r at hrounded
  have hwhole : wholePart r = n / 12 ∧ (exactValue r = (n / 12 : ℤ) ↔ 12 ∣ n) := by
    by_cases hdvd : 12 ∣ n
    · have hexact : (n : ℚ) / 12 = (n / 12 : ℤ) := by
        rw [hparts, Int.emod_eq_zero_of_dvd hdvd]
        push_cast
        ring
      rw [hexact] at hrounded
      have hvalue := hrounded.exactValue_eq (.of_int hquotient)
      rw [wholePart_eq, hvalue, Int.floor_intCast]
      exact ⟨rfl, by simpa using hdvd⟩
    · -- a quotient with a remainder stays between the sixteenths inside of the whole
      have hrest : 1 ≤ n % 12 ∧ n % 12 ≤ 11 := by omega
      have hrest' : (1 : ℚ) ≤ (n % 12 : ℤ) ∧ ((n % 12 : ℤ) : ℚ) ≤ 11 := by exact_mod_cast hrest
      have hgrid : ∀ j : ℤ, 0 ≤ j → j ≤ 16 → Representable ((n / 12 : ℤ) + j / 16) := by
        intro j hj hj'
        refine ⟨16 * (n / 12) + j, -4, abs_lt.mpr ⟨by omega, by omega⟩, by decide, by decide, ?_⟩
        push_cast
        ring
      have hge := hrounded.ge (hgrid 1 (by decide) (by decide)) (by
        push_cast
        linarith)
      have hle := hrounded.le (hgrid 15 (by decide) (by decide)) (by
        push_cast
        linarith)
      push_cast at hge hle
      constructor
      · rw [wholePart_eq, Int.floor_eq_iff]
        constructor <;> linarith
      · constructor
        · intro hvalue
          rw [hvalue] at hge
          linarith
        · intro h
          exact absurd h hdvd
  rw [hwhole.1, bne, Bool.not_inj_iff, Bool.eq_iff_iff, decide_eq_true_iff, ← hwhole.2,
    beq_iff hrounded.isFinite (isFinite_ofInt hquotient), exactValue_ofInt hquotient]

theorem hasFraction_of_isFinite (h : (x * 12.0 + 0.5).isFinite = true) :
    hasFraction (.real x) =
      .ok (Float.ofInt (wholePart (x * 12.0 + 0.5)) / 12.0 !=
        Float.ofInt (wholePart (Float.ofInt (wholePart (x * 12.0 + 0.5)) / 12.0))) := by
  simp only [hasFraction, round, roundTwelfths, roundHalfUp, floor_eq_ok h]
  rfl

theorem isFinite_count (hfinite : x.isFinite = true) (hlt : |exactValue x| < 400000) :
    (x * 12.0 + 0.5).isFinite = true :=
  ((isNearest_twelfths hfinite hlt).add_half (abs_twelve_le hlt)).isFinite

/-- Whether a number keeps a fraction. -/
theorem hasFraction_eq (hfinite : x.isFinite = true) (hlt : |exactValue x| < 399999) :
    hasFraction (.real x) = .ok !decide (12 ∣ twelfthsOf x) := by
  have hsum := isFinite_count hfinite (hlt.trans (by norm_num))
  obtain ⟨w, hw⟩ := Int.eq_ofNat_of_zero_le (Int.floor_nonneg.mpr (abs_nonneg (exactValue x)))
  have hlarge := whole_lt hlt hw
  obtain ⟨hlow, hhigh⟩ := twelfthsOf_bounds hfinite hlt hw
  have hcases : wholePart (x * 12.0 + 0.5) = twelfthsOf x ∨
      wholePart (x * 12.0 + 0.5) = -twelfthsOf x := by
    unfold twelfthsOf
    split
    · exact .inr (neg_neg _).symm
    · exact .inl rfl
  have hcount : |wholePart (x * 12.0 + 0.5)| < 2 ^ 48 := abs_lt.mpr ⟨by omega, by omega⟩
  have hdvd : 12 ∣ wholePart (x * 12.0 + 0.5) ↔ 12 ∣ twelfthsOf x := by omega
  rw [hasFraction_of_isFinite hsum, quotient_bne_wholePart hcount,
    decide_eq_decide.mpr hdvd]

/-- No twelfths are left over where twelve divides what is counted. -/
theorem split_snd_eq_iff (x : Float) : (split x).2 = noTwelfths ↔ 12 ∣ twelfthsAbove x := by
  have hrest : ((split x).2 : Nat) = (twelfthsAbove x % 12).toNat % 12 := rfl
  rw [Fin.ext_iff, hrest]
  change _ = 0 ↔ _
  omega

/-- Exactly the numbers that are clear of the windows keep a fraction where their text ends in
glyphs and none where it does not. -/
theorem hasFraction_iff_glyphs (hfinite : x.isFinite = true) (hlt : |exactValue x| < 399999) :
    ∃ text kept, ofFloat x = .ok text ∧ hasFraction (.real x) = .ok kept ∧
      ((kept = true ↔ ∃ t, t ≠ noTwelfths ∧ glyphs t <:+ text) ↔ IsClear x) := by
  obtain ⟨m, hm, htext⟩ := exists_written hfinite hlt
  refine ⟨_, _, htext, hasFraction_eq hfinite hlt, ?_⟩
  rw [exists_glyphs_suffix_iff hm, ne_eq, split_snd_eq_iff, ← dvd_count_iff hfinite hlt,
    Bool.not_eq_true', decide_eq_false_iff_not, not_iff_not]

end

/-- The double next to minus a twenty-fourth is in a window, and so is one above two whose product
is rounded up to the half. -/
theorem hasFraction_next_to_half :
    (hasFraction (.real (-0.041666666666666664)) = .ok false ∧
      ofFloat (-0.041666666666666664) = .ok ['-', '·'] ∧
      ∃ t, t ≠ noTwelfths ∧ glyphs t <:+ ['-', '·']) ∧
    hasFraction (.real 2.0416666666666665) = .ok true ∧
      ofFloat 2.0416666666666665 = .ok ['I', 'I'] ∧
      ¬∃ t, t ≠ noTwelfths ∧ glyphs t <:+ ['I', 'I'] := by
  refine ⟨⟨?_, rfl, Twelfths.ofNat 1, by decide, by decide⟩, rfl, rfl, by decide⟩
  rw [hasFraction_of_isFinite rfl]
  exact congrArg _ (by decide +kernel)

/-- Minus a half. -/
theorem hasFraction_iff_glyphs_semis :
    ((-0.5 : Float).isFinite = true ∧ |exactValue (-0.5)| < 399999 ∧ IsClear (-0.5)) ∧
      ofFloat (-0.5) = .ok ['-', 'S'] ∧ hasFraction (.real (-0.5)) = .ok true := by
  have hvalue : |exactValue (-0.5)| = 1 / 2 := by
    rw [exactValue_neg, exactValue_half]
    norm_num
  have hlt : |exactValue (-0.5)| < 399999 := by
    rw [hvalue]
    norm_num
  have hneg : (-0.5 : Float) < 0.0 := by decide
  have hclear : IsClear (-0.5) := by
    intro n hn
    rw [hvalue, if_pos hneg]
    rcases Nat.eq_zero_or_pos n with rfl | hpos
    · right
      have hgap := gap_lt_half (show 0 < 2 ^ 50 by decide)
      push_cast
      linarith
    · left
      have hgap := gap_lt_half (show n % 12 < 2 ^ 50 by omega)
      have hlarge : (11 : ℚ) ≤ n := by exact_mod_cast (show 11 ≤ n by omega)
      linarith
  have hwritten : ofFloat (-0.5) = .ok ['-', 'S'] := rfl
  obtain ⟨text, kept, htext, hkept, hglyphs⟩ := hasFraction_iff_glyphs (x := -0.5) rfl hlt
  obtain rfl := Except.ok.inj (hwritten.symm.trans htext)
  obtain rfl : kept = true := (hglyphs.mpr hclear).mpr ⟨Twelfths.ofNat 6, by decide, by decide⟩
  exact ⟨⟨rfl, hlt, hclear⟩, hwritten, hkept⟩

end RomanCalc.Uncia
