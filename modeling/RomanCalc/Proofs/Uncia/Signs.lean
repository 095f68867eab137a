import RomanCalc.Proofs.Uncia.Kept

/-!
# Signs and what stands behind them

The numeral of a whole part has a minus sign only if it has letters (`isSigned_ofDatum`). With
glyphs the sign is written before the twelfths of the magnitude are counted: where these are rounded
to nothing (`split_magnitude_eq_zero_iff`) a number that is not below zero has the empty text, and
one below zero is left with its sign alone (`ofQuantity_by_sign`).
-/

namespace RomanCalc.Uncia

open Number

/-- A numeral with glyphs behind it; one of the two may be missing. -/
def IsWritten (body : List Char) : Prop :=
  body ≠ [] ∧ ∃ n t, body = Numeral.spell (Numeral.glyphs n) ++ glyphs t

namespace Quantity

/-- A quantity as it is passed in. -/
def datum : Quantity → Datum
  | integer n => .integer n
  | real x => .real x

/-- Whether a quantity is a number of finite size. -/
def IsFinite : Quantity → Prop
  | integer _ => True
  | real x => x.isFinite = true

/-- A quantity without its sign. -/
def magnitude : Quantity → Quantity
  | integer n => integer n.natAbs
  | real x => real (RomanCalc.magnitude x)

/-- The minus sign of a quantity below zero. -/
def sign : Quantity → List Char
  | integer n => if n < 0 then ['-'] else []
  | real x => if x < 0.0 then ['-'] else []

theorem sign_cases (q : Quantity) : q.sign = [] ∨ q.sign = ['-'] := by
  cases q with
  | integer n => exact (ite_eq_or_eq _ _ _).symm
  | real x => exact (ite_eq_or_eq _ _ _).symm

end Quantity

/-! ## Numerals of whole parts -/

theorem spell_glyphs_eq_nil_iff {n : Nat} : Numeral.spell (Numeral.glyphs n) = [] ↔ n = 0 := by
  constructor
  · intro h
    have hrow : Numeral.glyphs n = [] := by
      rw [List.eq_nil_iff_forall_not_mem]
      intro glyph hglyph
      have hchars := List.flatMap_eq_nil_iff.mp h glyph hglyph
      unfold Numeral.Glyph.chars at hchars
      split at hchars <;> cases hchars
    have hweigh := Numeral.weigh_glyphs n
    rw [hrow] at hweigh
    exact Int.natCast_eq_zero.mp hweigh.symm
  · rintro rfl
    rfl

/-- A numeral with glyphs is missing as a whole only where nothing is counted. -/
theorem isWritten_iff {n : Nat} {t : Twelfths} :
    IsWritten (Numeral.spell (Numeral.glyphs n) ++ glyphs t) ↔ ¬(n = 0 ∧ t = noTwelfths) := by
  unfold IsWritten
  rw [ne_eq, List.append_eq_nil_iff, spell_glyphs_eq_nil_iff, glyphs_eq_nil_iff]
  exact and_iff_left ⟨n, t, rfl⟩

theorem isWritten_numeral {n : Nat} (h : n ≠ 0) :
    IsWritten (Numeral.spell (Numeral.glyphs n)) := by
  have hwritten := (@isWritten_iff n noTwelfths).mpr fun hzero => h hzero.1
  rwa [glyphs_eq_nil_iff.mpr rfl, List.append_nil] at hwritten

/-- The numeral of a whole number with its sign. -/
theorem encodeSigned_eq_ok {n : Int} {text : List Char} (h : Numeral.encodeSigned n = .ok text) :
    n.natAbs ≤ Numeral.largest ∧
      text = (Quantity.integer n).sign ++ Numeral.spell (Numeral.glyphs n.natAbs) := by
  by_cases hlarge : Numeral.largest < n.natAbs
  · rw [Numeral.encodeSigned_of_lt hlarge] at h
    cases h
  · rw [Numeral.encodeSigned_of_le (not_lt.mp hlarge)] at h
    cases h
    refine ⟨not_lt.mp hlarge, ?_⟩
    by_cases hneg : n < 0 <;> simp [Quantity.sign, hneg]

/-- Nothing at all, or a numeral behind a minus sign or none. -/
def IsSigned (text : List Char) : Prop :=
  text = [] ∨ ∃ body, IsWritten body ∧ (text = body ∨ text = '-' :: body)

/-- Neither letters nor glyphs are minus signs. -/
theorem minus_not_mem {body : List Char} (h : IsWritten body) : '-' ∉ body := by
  obtain ⟨-, n, t, rfl⟩ := h
  rw [List.mem_append, not_or]
  constructor
  · intro hmem
    obtain ⟨⟨letter, overlined⟩, -, hchar⟩ := List.mem_flatMap.mp hmem
    cases letter <;> cases overlined <;> revert hchar <;> decide
  · revert t
    decide

/-- A bare sign is not signed. -/
theorem not_isSigned_minus : ¬IsSigned ['-'] := by
  rintro (hempty | ⟨body, hbody, heq | heq⟩)
  · cases hempty
  · exact minus_not_mem hbody (heq ▸ List.mem_singleton_self '-')
  · exact hbody.1 (List.cons.inj heq).2.symm

theorem isSigned_of_encodeSigned {n : Int} {text : List Char}
    (h : Numeral.encodeSigned n = .ok text) : IsSigned text := by
  obtain ⟨-, rfl⟩ := encodeSigned_eq_ok h
  by_cases hzero : n = 0
  · subst hzero
    exact .inl rfl
  · refine .inr ⟨_, isWritten_numeral (Int.natAbs_ne_zero.mpr hzero), ?_⟩
    rcases (Quantity.integer n).sign_cases with hsign | hsign
    · exact .inl (by rw [hsign, List.nil_append])
    · exact .inr (by rw [hsign, List.singleton_append])

theorem isSigned_ofFloat {x : Float} {text : List Char} (h : Numeral.ofFloat x = .ok text) :
    IsSigned text := by
  unfold Numeral.ofFloat at h
  split at h
  · cases h
    exact .inl rfl
  · cases h
  · exact isSigned_of_encodeSigned h

theorem mapError_eq_ok {ε ε' α : Type} {f : ε → ε'} {x : Except ε α} {a : α}
    (h : x.mapError f = .ok a) : x = .ok a := by
  cases x with
  | error e => cases h
  | ok b =>
    cases h
    rfl

/-- Whatever has a numeral has one without a bare sign. -/
theorem isSigned_ofDatum {datum : Datum} {text : List Char}
    (h : Numeral.ofDatum datum = .ok text) : IsSigned text := by
  cases datum with
  | absent =>
    cases h
    exact .inl rfl
  | truth b => exact isSigned_ofFloat (mapError_eq_ok h)
  | integer n =>
    unfold Numeral.ofDatum at h
    simp only at h
    split at h
    · exact isSigned_ofFloat (mapError_eq_ok h)
    · cases h
  | real x => exact isSigned_ofFloat (mapError_eq_ok h)
  | text s =>
    unfold Numeral.ofDatum at h
    simp only at h
    split at h
    · exact isSigned_ofFloat (mapError_eq_ok h)
    · cases h
      exact .inl rfl
  | list items =>
    cases h
    exact .inl rfl

/-! ## What is rounded to nothing -/

section

variable {u : ℚ} {x y : Float}

/-- What is counted is no less than a whole number below the exact count. -/
theorem le_count (h : IsRounded u y) (hu : u ≤ 2 ^ 40) (n : ℕ) (hn : n ≤ u) :
    n ≤ wholePart (y + 0.5) := by
  have hnonneg : (0 : ℚ) ≤ n := Nat.cast_nonneg n
  have hsmall : n ≤ 2 ^ 40 := by exact_mod_cast hn.trans hu
  have hbound : |u| ≤ 2 ^ 52 := by
    rw [abs_of_nonneg (by linarith)]
    linarith
  apply h.le_halfUp hbound (abs_lt.mpr ⟨by omega, by omega⟩)
  push_cast
  linarith

/-- No twelfths are left of a number where it is counted as none. -/
theorem roundTwelfths_eq_zero_iff (h : IsRounded u y) (hu : 0 ≤ u) (hu' : u ≤ 2 ^ 40) :
    roundTwelfths y = .ok 0.0 ↔ wholePart (y + 0.5) = 0 := by
  have hbound : |u| ≤ 2 ^ 52 := by
    rw [abs_of_nonneg hu]
    linarith
  have hcount : 0 ≤ wholePart (y + 0.5) := le_count h hu' 0 (by simpa using hu)
  have hgap := gap_lt_half (show 2 ^ 40 < 2 ^ 50 by decide)
  have hcount' : wholePart (y + 0.5) ≤ (2 ^ 40 : ℕ) := halfUp_le_of_le h hbound (by decide) (by
    push_cast
    linarith)
  have hround : roundTwelfths y = .ok (Float.ofInt (wholePart (y + 0.5)) / 12.0) := by
    simp only [roundTwelfths, roundHalfUp, floor_eq_ok (h.add_half hbound).isFinite]
    rfl
  rw [hround, Except.ok.injEq]
  constructor
  · intro hzero
    by_contra hne
    have htwelfth := @isRounded_twelfth (wholePart (y + 0.5)) (abs_lt.mpr ⟨by omega, by omega⟩)
    have hpos : 1 ≤ wholePart (y + 0.5) := by omega
    have hone : (1 : ℚ) ≤ wholePart (y + 0.5) := by exact_mod_cast hpos
    have hsixteenth := htwelfth.ge (b := 1 / 16)
      ⟨1, -4, by decide, by decide, by decide, by norm_num⟩ (by linarith)
    rw [hzero] at hsixteenth
    have hvalue : exactValue 0.0 = 0 := rfl
    rw [hvalue] at hsixteenth
    linarith
  · intro hzero
    rw [hzero]
    rfl

/-- All twelfths of a magnitude. -/
theorem isRounded_twelfths_magnitude (hfinite : x.isFinite = true)
    (hlt : |exactValue x| < 400000) :
    IsRounded (|exactValue x| * 12) (magnitude x * 12.0) := by
  rw [mul_comm, ← exactValue_magnitude hfinite]
  apply (isNearest_twelfths (isFinite_magnitude hfinite) _).toIsRounded
  rwa [exactValue_magnitude hfinite, abs_abs]

/-- Where there is no whole part, all twelfths are above it. -/
theorem twelfthsAbove_of_wholePart (h : wholePart y = 0) :
    twelfthsAbove y = wholePart (y * 12.0 + 0.5) := by
  have hsub : (y - Float.ofInt 0) * 12.0 = y * 12.0 := by
    change Float.ofModel (Float.Model.pack (.mul .binary64 (y - Float.ofInt 0).toModel.unpack _)) = _
    rw [unpack_sub_zero]
    rfl
  rw [twelfthsAbove, h, hsub]

/-- The magnitude of a number is split into nothing where it is rounded to nothing. -/
theorem split_magnitude_eq_zero_iff (hfinite : x.isFinite = true)
    (hlt : |exactValue x| < 400000) :
    ((split (magnitude x)).1 = 0 ∧ (split (magnitude x)).2 = noTwelfths) ↔
      round (.real (magnitude x)) = .ok 0.0 := by
  have hrounded := isRounded_twelfths_magnitude hfinite hlt
  have hnonneg := abs_nonneg (exactValue x)
  have hcounted := isCounted_magnitude hfinite
  have hlow := hcounted.nonneg
  have hhigh := hcounted.le_twelve
  have hwhole : 0 ≤ wholePart (magnitude x) := by
    rw [wholePart_magnitude hfinite]
    exact Int.floor_nonneg.mpr hnonneg
  change _ ↔ roundTwelfths (magnitude x * 12.0) = .ok 0.0
  rw [roundTwelfths_eq_zero_iff hrounded (by linarith) (by linarith), split_fst hcounted,
    split_snd_eq_iff, roundedWhole]
  constructor
  · rintro ⟨hfst, hsnd⟩
    have hzero : wholePart (magnitude x) = 0 ∧ twelfthsAbove (magnitude x) = 0 := by
      split at hfst <;> omega
    rw [← twelfthsAbove_of_wholePart hzero.1, hzero.2]
  · intro hcount
    have hzero : wholePart (magnitude x) = 0 := by
      by_contra hne
      have hone : 1 ≤ |exactValue x| := by
        have hfloor : (1 : ℤ) ≤ ⌊|exactValue x|⌋ := by
          rw [← wholePart_magnitude hfinite]
          omega
        exact_mod_cast Int.le_floor.mp hfloor
      have htwelve := le_count hrounded (by linarith) 12 (by
        push_cast
        linarith)
      omega
    rw [← twelfthsAbove_of_wholePart hzero] at hcount
    rw [hcount, hzero]
    exact ⟨rfl, dvd_zero 12⟩

/-- A whole number is rounded to nothing only where it is zero. -/
theorem round_integer_eq_zero_iff {n : ℕ} (h : n ≤ Numeral.largest) :
    round (.integer n) = .ok 0.0 ↔ n = 0 := by
  unfold Numeral.largest at h
  have hn : (n : ℚ) ≤ 399999 := by exact_mod_cast h
  have hn0 : (0 : ℚ) ≤ n := Nat.cast_nonneg n
  have hsmall : |12 * (n : ℤ)| < 2 ^ 53 := abs_lt.mpr ⟨by omega, by omega⟩
  have hfinite := isFinite_ofInt hsmall
  have hexact : exactValue (Float.ofInt (12 * n)) = 12 * n := by
    rw [exactValue_ofInt hsmall]
    push_cast
    rfl
  have hrounded : IsRounded (12 * n) (Float.ofInt (12 * n)) := ⟨hfinite, hexact ▸ .refl _⟩
  have hreal : round (.integer n) = roundTwelfths (Float.ofInt (12 * n)) := by
    have hsome : ofInt? (12 * n) = some (Float.ofInt (12 * n)) := if_pos hfinite
    unfold round realOfInt
    simp only [hsome]
    rfl
  rw [hreal, roundTwelfths_eq_zero_iff hrounded (by linarith) (by linarith)]
  constructor
  · intro hcount
    by_contra hne
    have hone : (1 : ℚ) ≤ n := by exact_mod_cast Nat.pos_of_ne_zero hne
    have htwelve := le_count hrounded (by linarith) 12 (by
      push_cast
      linarith)
    omega
  · rintro rfl
    decide +kernel

/-- The text of a double: its sign, and what is written for its magnitude. -/
theorem ofFloat_eq_ok {text : List Char} (hfinite : x.isFinite = true) (h : ofFloat x = .ok text) :
    (split (magnitude x)).1 ≤ Numeral.largest ∧
      text = (Quantity.real x).sign ++ written (magnitude x) := by
  have hle : (split (magnitude x)).1 ≤ Numeral.largest := by
    by_contra hlarge
    rw [ofFloat_of_isFinite hfinite, ofMagnitude_of_lt (not_le.mp hlarge)] at h
    cases h
  refine ⟨hle, ?_⟩
  rw [ofFloat_eq hfinite hle] at h
  cases h
  by_cases hneg : x < 0.0 <;> simp [Quantity.sign, hneg]

/-- A double that has a text is no larger than the numerals reach. -/
theorem abs_exactValue_lt (hfinite : x.isFinite = true)
    (hle : (split (magnitude x)).1 ≤ Numeral.largest) : |exactValue x| < 400000 := by
  have hwhole : ⌊|exactValue x|⌋ < 400000 := by
    rw [← wholePart_magnitude hfinite]
    rw [split_fst (isCounted_magnitude hfinite), roundedWhole, Numeral.largest] at hle
    split at hle <;> omega
  exact_mod_cast Int.floor_lt.mp hwhole

/-- What is written for a double: its sign, and behind it what is written for its magnitude unless
this is rounded to nothing. -/
theorem ofFloat_by_sign {text : List Char} (hfinite : x.isFinite = true)
    (h : ofFloat x = .ok text) :
    (round (.real (magnitude x)) = .ok 0.0 → text = (Quantity.real x).sign) ∧
      (round (.real (magnitude x)) ≠ .ok 0.0 →
        ∃ body, IsWritten body ∧ text = (Quantity.real x).sign ++ body) := by
  have hnonneg := split_fst_nonneg hfinite
  obtain ⟨hle, htext⟩ := ofFloat_eq_ok hfinite h
  have hsplit := split_magnitude_eq_zero_iff hfinite (abs_exactValue_lt hfinite hle)
  constructor
  · intro hzero
    obtain ⟨hfst, hsnd⟩ := hsplit.mpr hzero
    rw [htext, written, hfst, hsnd]
    exact List.append_nil _
  · intro hne
    refine ⟨written (magnitude x), isWritten_iff.mpr ?_, htext⟩
    rintro ⟨hfst, hsnd⟩
    exact hne (hsplit.mp ⟨by omega, hsnd⟩)

end

/-- No rendering is a bare sign but one: the numeral of a whole part is empty or has letters behind
its sign, and with glyphs a number is written as its sign alone where its magnitude is rounded to
nothing, which is the empty text unless it is below zero. -/
theorem ofQuantity_by_sign {q : Quantity} (hq : q.IsFinite) :
    (∀ text, Numeral.ofDatum q.datum = .ok text → IsSigned text) ∧
      ∀ text, ofQuantity q = .ok text →
        (round q.magnitude = .ok 0.0 → text = q.sign) ∧
          (round q.magnitude ≠ .ok 0.0 → ∃ body, IsWritten body ∧ text = q.sign ++ body) := by
  refine ⟨fun text h => isSigned_ofDatum h, fun text h => ?_⟩
  cases q with
  | real x => exact ofFloat_by_sign hq (mapError_eq_ok h)
  | integer n =>
    have hencoded : Numeral.encodeSigned n = .ok text := by
      change (realOfInt n).bind _ = _ at h
      cases hreal : realOfInt n with
      | error failure =>
        rw [hreal] at h
        cases h
      | ok y =>
        rw [hreal] at h
        exact mapError_eq_ok h
    obtain ⟨hle, rfl⟩ := encodeSigned_eq_ok hencoded
    have hzero : round (Quantity.integer n).magnitude = .ok 0.0 ↔ n = 0 := by
      rw [← Int.natAbs_eq_zero, ← round_integer_eq_zero_iff hle]
      rfl
    rw [ne_eq, hzero]
    constructor
    · rintro rfl
      rfl
    · intro hne
      exact ⟨_, isWritten_numeral (Int.natAbs_ne_zero.mpr hne), rfl⟩

/-- A number just above minus one, which is carried to it. -/
theorem ofQuantity_by_sign_carried :
    (Quantity.real (-0.98)).IsFinite ∧
      Numeral.ofDatum (.real (-0.98)) = .ok ['-', 'I'] ∧ IsSigned ['-', 'I'] ∧
      ofQuantity (.real (-0.98)) = .ok ['-', 'I'] ∧
      round (Quantity.real (-0.98)).magnitude ≠ .ok 0.0 ∧
      ∃ body, IsWritten body ∧ ['-', 'I'] = (Quantity.real (-0.98)).sign ++ body := by
  have hfinite : (Quantity.real (-0.98)).IsFinite := rfl
  have hnumeral : Numeral.ofDatum (.real (-0.98)) = .ok ['-', 'I'] := rfl
  have hwritten : ofQuantity (.real (-0.98)) = .ok ['-', 'I'] := rfl
  have hround : round (Quantity.real (-0.98)).magnitude = .ok 1.0 := rfl
  have hne : round (Quantity.real (-0.98)).magnitude ≠ .ok 0.0 := by
    rw [hround]
    intro h
    exact absurd (Except.ok.inj h) (by decide)
  obtain ⟨hsigned, hbody⟩ := ofQuantity_by_sign hfinite
  exact ⟨hfinite, hnumeral, hsigned _ hnumeral, hwritten, hne, (hbody _ hwritten).2 hne⟩

/-- Below zero, a number whose magnitude is rounded to nothing is written as a bare sign. -/
theorem bare_sign :
    ofQuantity (.real (-0.01)) = .ok ['-'] ∧
      round (Quantity.real (-0.01)).magnitude = .ok 0.0 ∧ ¬IsSigned ['-'] := by
  exact ⟨rfl, rfl, not_isSigned_minus⟩

end RomanCalc.Uncia
