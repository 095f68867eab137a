import RomanCalc.Proofs.Number.Significand

/-!
# Rounded results

The four operations on doubles round the exact result, as long as it is below the fifty-third power
of two (`IsRounded.add`, `IsRounded.sub`, `IsRounded.mul`, `IsRounded.div`). So an exact result
that is a double is the result (`IsRounded.exactValue_eq`), and any other lies between the same
doubles. Two doubles are equal where their values are (`beq_iff`).
-/

namespace RomanCalc.Number

open Float.Model Float.Model.UnpackedFloat

/-! ## Operations on unpacked numbers -/

section

variable {u v : UnpackedFloat}

/-- A significand that is moved to a lower exponent. -/
theorem aligned (m : Nat) {e d : Int} (h : d ≤ e) :
    ((m * 2 ^ (e - d).toNat : Nat) : ℚ) * 2 ^ d = m * 2 ^ e := by
  have hd : e - ((e - d).toNat : Int) = d := by omega
  rw [← shiftLeft_scaled m (e - d).toNat e, hd]

/-- A significand with a sign, moved to a lower exponent. -/
theorem apply_aligned (s : Sign) {m : ℕ} {e d : ℤ} {hm : 0 < m} (h : d ≤ e) :
    (s.apply ((m * 2 ^ (e - d).toNat : ℕ) : ℤ) : ℚ) * 2 ^ d = rational (.finite s m e hm) := by
  have haligned := aligned m h
  cases s with
  | positive => exact_mod_cast haligned
  | negative =>
    change ((-((m * 2 ^ (e - d).toNat : ℕ) : ℤ) : ℤ) : ℚ) * 2 ^ d = -(m * 2 ^ e)
    rw [← haligned]
    push_cast
    ring

theorem IsRounding.add (hu : IsStored u) (hv : IsStored v)
    (h : |rational u + rational v| < 2 ^ 53) :
    IsRounding (rational u + rational v) (UnpackedFloat.add .binary64 u v) := by
  cases u with
  | notANumber => cases hu.isFinite
  | infinity s => cases hu.isFinite
  | zero s =>
    cases v with
    | notANumber => cases hv.isFinite
    | infinity t => cases hv.isFinite
    | zero t =>
      change IsRounding (0 + 0) _
      rw [add_zero]
      unfold UnpackedFloat.add
      simp only
      split <;> exact .of_isStored (.zero _)
    | finite t n q hn =>
      change IsRounding (0 + _) _
      rw [zero_add]
      exact .of_isStored hv
  | finite s m e hm =>
    cases v with
    | notANumber => cases hv.isFinite
    | infinity t => cases hv.isFinite
    | zero t =>
      change IsRounding (_ + 0) _
      rw [add_zero]
      exact .of_isStored hu
    | finite t n q hn =>
      let d := min e q
      have hsum : UnpackedFloat.add .binary64 (.finite s m e hm) (.finite t n q hn) =
          UnpackedFloat.normalize .binary64 (s.apply ((m * 2 ^ (e - d).toNat : ℕ) : ℤ) +
            t.apply ((n * 2 ^ (q - d).toNat : ℕ) : ℤ)) d .positive := by
        simp only [UnpackedFloat.add, decreaseExponent, Nat.shiftLeft_eq]
        rfl
      have hexact : ((s.apply ((m * 2 ^ (e - d).toNat : ℕ) : ℤ) +
          t.apply ((n * 2 ^ (q - d).toNat : ℕ) : ℤ) : ℤ) : ℚ) * 2 ^ d =
          rational (.finite s m e hm) + rational (.finite t n q hn) := by
        rw [Int.cast_add, add_mul, apply_aligned s (min_le_left e q),
          apply_aligned t (min_le_right e q)]
      rw [hsum, ← hexact]
      exact isRounding_normalize _ (by rwa [hexact])

theorem withSign_mul (s t : Sign) (a b : ℚ) :
    withSign (s * t) (a * b) = withSign s a * withSign t b := by
  cases s <;> cases t
  · exact (neg_mul_neg a b).symm
  · exact (neg_mul a b).symm
  · exact (mul_neg a b).symm
  · rfl

theorem abs_withSign (s : Sign) (a : ℚ) : |withSign s a| = |a| := by
  cases s with
  | positive => rfl
  | negative => exact abs_neg a

/-- The product of two significands is long enough to be rounded. -/
theorem isLong_mul {m n : ℕ} {e q : ℤ} (hm : 0 < m) (hn : 0 < n) (hme : IsCanonical m e)
    (hnq : IsCanonical n q) : IsLong (m * n) (e + q) := by
  have hlow : ∀ {m n : ℕ}, m.log2 = 52 → 0 < m → 0 < n → 52 ≤ (m * n).log2 := by
    intro m n hlog hm hn
    rw [Nat.le_log2 (Nat.ne_of_gt (Nat.mul_pos hm hn)), ← hlog]
    exact le_trans (Nat.log2_self_le (Nat.ne_of_gt hm)) (Nat.le_mul_of_pos_right m hn)
  rcases hme with ⟨hlog, -⟩ | ⟨-, rfl⟩
  · exact .inl (hlow hlog hm hn)
  · rcases hnq with ⟨hlog, -⟩ | ⟨-, rfl⟩
    · rw [Nat.mul_comm]
      exact .inl (hlow hlog hn hm)
    · exact .inr (by decide)

theorem IsStored.isCanonical {s : Sign} {m : ℕ} {e : ℤ} {hm : 0 < m}
    (h : IsStored (.finite s m e hm)) : IsCanonical m e :=
  isCanonical_of_unpack h.unpack_eq

theorem rational_mul {s t : Sign} {m n : ℕ} {e q : ℤ} {hm : 0 < m} {hn : 0 < n} :
    rational (.finite s m e hm) * rational (.finite t n q hn) =
      withSign (s * t) ((m * n : ℕ) * 2 ^ (e + q)) := by
  rw [rational_finite, rational_finite, ← withSign_mul, zpow_add₀ (by norm_num)]
  push_cast
  congr 1
  ring

theorem IsRounding.mul (hu : IsStored u) (hv : IsStored v)
    (h : |rational u * rational v| < 2 ^ 53) :
    IsRounding (rational u * rational v) (UnpackedFloat.mul .binary64 u v) := by
  cases u with
  | notANumber => cases hu.isFinite
  | infinity s => cases hu.isFinite
  | zero s =>
    change IsRounding (0 * _) _
    rw [zero_mul]
    cases v with
    | notANumber => cases hv.isFinite
    | infinity t => cases hv.isFinite
    | zero t => exact .of_isStored (.zero (s * t))
    | finite t n q hn => exact .of_isStored (.zero (s * t))
  | finite s m e hm =>
    cases v with
    | notANumber => cases hv.isFinite
    | infinity t => cases hv.isFinite
    | zero t =>
      change IsRounding (_ * 0) _
      rw [mul_zero]
      exact .of_isStored (.zero (s * t))
    | finite t n q hn =>
      rw [rational_mul, abs_withSign, abs_of_nonneg (by positivity)] at h
      rw [rational_mul]
      exact isRounding_roundWithAccuracy (s * t) (StartsWith.of_exact (m * n))
        (isLong_mul hm hn hu.isCanonical hv.isCanonical) h

/-- A quotient starts with the bits that the division of the significands gives. -/
theorem startsWith_div (m : ℕ) {n : ℕ} (hn : 0 < n) :
    StartsWith ((m : ℚ) / n) (m / n) (accuracyOfFraction (m % n) n) := by
  have hn' : (0 : ℚ) < n := by exact_mod_cast hn
  have hdiv : (n : ℚ) * (m / n : ℕ) + (m % n : ℕ) = m := by exact_mod_cast Nat.div_add_mod m n
  have hmod : ((m % n : ℕ) : ℚ) < n := by exact_mod_cast Nat.mod_lt m hn
  have hnonneg : (0 : ℚ) ≤ (m % n : ℕ) := Nat.cast_nonneg _
  refine ⟨?_, ?_, ?_⟩
  · rw [le_div_iff₀ hn']
    linarith
  · rw [div_lt_iff₀ hn']
    linarith
  · intro hinexact
    unfold accuracyOfFraction at hinexact
    split at hinexact
    · exact absurd rfl hinexact
    · next hne =>
      have hpos : (0 : ℚ) < (m % n : ℕ) := by exact_mod_cast Nat.pos_of_ne_zero hne
      rw [lt_div_iff₀ hn']
      linarith

theorem log2_div_le {m n k : ℕ} (hm : 0 < m) (hn : 0 < n) (hlog : n.log2 + k + 1 ≤ m.log2) :
    k ≤ (m / n).log2 := by
  have hle : 2 ^ k * n ≤ m := by
    calc 2 ^ k * n ≤ 2 ^ k * 2 ^ (n.log2 + 1) :=
          Nat.mul_le_mul_left _ Nat.lt_log2_self.le
      _ = 2 ^ (n.log2 + k + 1) := by
        rw [← Nat.pow_add]
        congr 1
        omega
      _ ≤ 2 ^ m.log2 := Nat.pow_le_pow_right (by decide) hlog
      _ ≤ m := Nat.log2_self_le (Nat.ne_of_gt hm)
  have hdiv : 2 ^ k ≤ m / n := (Nat.le_div_iff_mul_le hn).mpr hle
  exact (Nat.le_log2 (Nat.ne_of_gt (lt_of_lt_of_le (Nat.two_pow_pos k) hdiv))).mpr hdiv

theorem withSign_div (s t : Sign) (a b : ℚ) :
    withSign (s / t) (a / b) = withSign s a / withSign t b := by
  cases s <;> cases t
  · exact (neg_div_neg_eq a b).symm
  · exact (neg_div b a).symm
  · exact (div_neg a).symm
  · rfl

/-- The quotient of two significands is long enough to be rounded. -/
theorem exists_divCore {m n : ℕ} (e q : ℤ) (hm : 0 < m) (hn : 0 < n) :
    ∃ (k : ℕ) (t : ℤ), divCore .binary64 m e n q =
        (m * 2 ^ k / n, t, accuracyOfFraction (m * 2 ^ k % n) n) ∧
      t + k = e - q ∧ IsLong (m * 2 ^ k / n) t := by
  let t := min (e - q) (Format.binary64.targetExponent (totalExponent m e - totalExponent n q))
  let k := (e - q - t).toNat
  have hk : t + k = e - q := by omega
  refine ⟨k, t, ?_, hk, ?_⟩
  · unfold divCore
    simp only [Nat.shiftLeft_eq]
    rfl
  · have htarget : t = min (e - q) (max ((m.log2 : ℤ) + 1 + e - (n.log2 + 1 + q) - 53) (-1074)) :=
      rfl
    by_cases hlast : t ≤ -1074
    · exact .inr hlast
    · refine .inl (log2_div_le (Nat.mul_pos hm (Nat.two_pow_pos k)) hn ?_)
      rw [log2_mul_two_pow hm]
      omega

theorem IsRounding.div {t : Sign} {n : ℕ} {q : ℤ} {hn : 0 < n} (hu : IsStored u)
    (h : |rational u / rational (.finite t n q hn)| < 2 ^ 53) :
    IsRounding (rational u / rational (.finite t n q hn))
      (UnpackedFloat.div .binary64 u (.finite t n q hn)) := by
  cases u with
  | notANumber => cases hu.isFinite
  | infinity s => cases hu.isFinite
  | zero s =>
    change IsRounding (0 / _) _
    rw [zero_div]
    exact .of_isStored (.zero (s / t))
  | finite s m e hm =>
    obtain ⟨k, d, hcore, hk, hlong⟩ := exists_divCore e q hm hn
    have hn' : (n : ℚ) ≠ 0 := by exact_mod_cast hn.ne'
    have hpow : (2 : ℚ) ^ q ≠ 0 := by positivity
    have hexact : rational (.finite s m e hm) / rational (.finite t n q hn) =
        withSign (s / t) ((m * 2 ^ k : ℕ) / n * 2 ^ d) := by
      rw [rational_finite, rational_finite, ← withSign_div, show e = d + k + q by omega,
        zpow_add₀ (by norm_num), zpow_add₀ (by norm_num), zpow_natCast]
      push_cast
      congr 1
      field_simp
    rw [hexact, abs_withSign, abs_of_nonneg (by positivity)] at h
    rw [hexact]
    have hround := isRounding_roundWithAccuracy (s / t) (startsWith_div (m * 2 ^ k) hn) hlong h
    unfold UnpackedFloat.div
    simp only [hcore]
    exact hround

/-- A difference is the sum with the opposite. -/
theorem sub_eq_add (u v : UnpackedFloat) :
    UnpackedFloat.sub .binary64 u v = UnpackedFloat.add .binary64 u v.neg := by
  have hsign : ∀ s : Sign, - -s = s := fun s => by cases s <;> rfl
  have happly : ∀ (s : Sign) (n : ℤ), (-s).apply n = -s.apply n := fun s n => by
    cases s
    · exact (neg_neg n).symm
    · rfl
  cases u with
  | notANumber => cases v <;> rfl
  | infinity s => cases v <;> simp [UnpackedFloat.sub, UnpackedFloat.add, UnpackedFloat.neg]
  | zero s => cases v <;> simp [UnpackedFloat.sub, UnpackedFloat.add, UnpackedFloat.neg]
  | finite s m e hm =>
    cases v with
    | finite t n q hn =>
      simp only [UnpackedFloat.sub, UnpackedFloat.add, UnpackedFloat.neg, happly]
      rfl
    | _ => rfl

theorem rational_neg (u : UnpackedFloat) : rational u.neg = -rational u := by
  cases u with
  | notANumber => rfl
  | infinity s => rfl
  | zero s => rfl
  | finite s m e hm =>
    cases s with
    | negative => exact (neg_neg _).symm
    | positive => rfl

theorem IsStored.neg (h : IsStored u) : IsStored u.neg := by
  cases u with
  | notANumber => cases h.isFinite
  | infinity s => cases h.isFinite
  | zero s => exact .zero _
  | finite s m e hm => exact .finite h.isCanonical

theorem IsRounding.sub (hu : IsStored u) (hv : IsStored v)
    (h : |rational u - rational v| < 2 ^ 53) :
    IsRounding (rational u - rational v) (UnpackedFloat.sub .binary64 u v) := by
  rw [sub_eq_add_neg, ← rational_neg] at h ⊢
  rw [sub_eq_add]
  exact .add hu hv.neg h

end

/-! ## Operations on doubles -/

/-- A number is rounded to a double. -/
structure IsRounded (v : ℚ) (x : Float) : Prop where
  isFinite : x.isFinite = true
  roundsTo : RoundsTo v (exactValue x)

namespace IsRounded

variable {x y : Float} {v : ℚ}

theorem of_isRounding {u : UnpackedFloat}
    (hx : x.toModel.unpack = UnpackedFloat.unpack .binary64 (UnpackedFloat.pack .binary64 u))
    (h : IsRounding v u) : IsRounded v x := by
  rw [h.isStored.unpack_eq] at hx
  constructor
  · change x.toModel.unpack.isFinite = true
    rw [hx, h.isStored.isFinite]
  · rw [exactValue, hx]
    exact h.roundsTo

protected theorem add (hx : x.isFinite = true) (hy : y.isFinite = true)
    (h : |exactValue x + exactValue y| < 2 ^ 53) :
    IsRounded (exactValue x + exactValue y) (x + y) :=
  .of_isRounding rfl (.add (.toModel hx) (.toModel hy) h)

protected theorem sub (hx : x.isFinite = true) (hy : y.isFinite = true)
    (h : |exactValue x - exactValue y| < 2 ^ 53) :
    IsRounded (exactValue x - exactValue y) (x - y) :=
  .of_isRounding rfl (.sub (.toModel hx) (.toModel hy) h)

protected theorem mul (hx : x.isFinite = true) (hy : y.isFinite = true)
    (h : |exactValue x * exactValue y| < 2 ^ 53) :
    IsRounded (exactValue x * exactValue y) (x * y) :=
  .of_isRounding rfl (.mul (.toModel hx) (.toModel hy) h)

protected theorem div (hx : x.isFinite = true) (hy : y.isFinite = true) (hne : exactValue y ≠ 0)
    (h : |exactValue x / exactValue y| < 2 ^ 53) :
    IsRounded (exactValue x / exactValue y) (x / y) := by
  rcases unpack_of_isFinite hy with ⟨s, hzero⟩ | ⟨s, n, q, hn, hfinite⟩
  · refine absurd ?_ hne
    rw [exactValue, hzero]
    rfl
  · unfold exactValue at h ⊢
    rw [hfinite] at h ⊢
    refine .of_isRounding ?_ (.div (.toModel hx) h)
    rw [← hfinite]
    rfl

/-- A representable number is the double that it is rounded to. -/
theorem exactValue_eq (h : IsRounded v x) (hv : Representable v) : exactValue x = v :=
  h.roundsTo.eq hv

theorem le {b : ℚ} (h : IsRounded v x) (hb : Representable b) (hle : v ≤ b) : exactValue x ≤ b :=
  (h.roundsTo b hb).1 hle

theorem ge {b : ℚ} (h : IsRounded v x) (hb : Representable b) (hle : b ≤ v) : b ≤ exactValue x :=
  (h.roundsTo b hb).2 hle

end IsRounded

/-! ## Equal doubles -/

theorem IsCanonical.lt {m : ℕ} {e : ℤ} (h : IsCanonical m e) : m < 2 ^ 53 := by
  rcases h with ⟨hlog, -⟩ | ⟨hsmall, -⟩
  · have hlt : m < 2 ^ (m.log2 + 1) := Nat.lt_log2_self
    rwa [hlog] at hlt
  · exact lt_trans hsmall (by decide)

theorem IsCanonical.le {m : ℕ} {e : ℤ} (h : IsCanonical m e) : -1074 ≤ e := by
  rcases h with ⟨-, hlow, -⟩ | ⟨-, rfl⟩
  · exact hlow
  · exact le_rfl

/-- Of two doubles with the same value neither has a lower exponent. -/
theorem IsCanonical.exponent_le {m n : ℕ} {e q : ℤ} (hm : IsCanonical m e) (hn : IsCanonical n q)
    (h : (m : ℚ) * 2 ^ e = n * 2 ^ q) (hpos : 0 < n) : q ≤ e := by
  by_contra hlt
  have hlow := hm.le
  have hbits := hm.lt
  have hfull : 2 ^ 52 ≤ n := by
    rcases hn with ⟨hlog, -⟩ | ⟨-, hlast⟩
    · exact hlog ▸ Nat.log2_self_le (Nat.ne_of_gt hpos)
    · omega
  obtain ⟨d, hd⟩ := Int.eq_ofNat_of_zero_le (show 0 ≤ q - e - 1 by omega)
  have hpow : (0 : ℚ) < 2 ^ e := by positivity
  have hshift : m = n * 2 ^ (d + 1) := by
    rw [show q = ((d + 1 : ℕ) : ℤ) + e by omega, zpow_add₀ (by norm_num), zpow_natCast,
      ← mul_assoc] at h
    exact_mod_cast mul_right_cancel₀ hpow.ne' h
  have hlarge : 2 ^ 52 * 2 ^ 1 ≤ n * 2 ^ (d + 1) :=
    Nat.mul_le_mul hfull (Nat.pow_le_pow_right (by decide) (by omega))
  omega

/-- The significand and the exponent of a double are those of no other. -/
theorem IsCanonical.unique {m n : ℕ} {e q : ℤ} (hm : IsCanonical m e) (hn : IsCanonical n q)
    (h : (m : ℚ) * 2 ^ e = n * 2 ^ q) (hmpos : 0 < m) (hnpos : 0 < n) : m = n ∧ e = q := by
  obtain rfl : e = q :=
    le_antisymm (hn.exponent_le hm h.symm hmpos) (hm.exponent_le hn h hnpos)
  have hpow : (0 : ℚ) < 2 ^ e := by positivity
  exact ⟨by exact_mod_cast mul_right_cancel₀ hpow.ne' h, rfl⟩

theorem compare_finite_eq_iff {m n : ℕ} {e q : ℤ} (hme : IsCanonical m e) (hnq : IsCanonical n q)
    (hm : 0 < m) (hn : 0 < n) :
    (compare e q).then (compare m n) = .eq ↔ (m : ℚ) * 2 ^ e = n * 2 ^ q := by
  rw [Ordering.then_eq_eq, compare_eq_iff_eq, compare_eq_iff_eq]
  constructor
  · rintro ⟨rfl, rfl⟩
    rfl
  · intro h
    obtain ⟨hmn, heq⟩ := hme.unique hnq h hm hn
    exact ⟨heq, hmn⟩

/-- Finite doubles are equal where their values are. -/
theorem beq_iff {x y : Float} (hx : x.isFinite = true) (hy : y.isFinite = true) :
    (x == y) = true ↔ exactValue x = exactValue y := by
  have hbeq : (x == y) = UnpackedFloat.beq x.toModel.unpack y.toModel.unpack := rfl
  rw [hbeq]
  unfold exactValue UnpackedFloat.beq
  rcases unpack_of_isFinite hx with ⟨s, hxu⟩ | ⟨s, m, e, hm, hxu⟩ <;>
    rcases unpack_of_isFinite hy with ⟨t, hyu⟩ | ⟨t, n, q, hn, hyu⟩ <;>
    rw [hxu, hyu]
  · simp [UnpackedFloat.compare, rational]
  · have hpos : (0 : ℚ) < n * 2 ^ q := by positivity
    cases t <;> simp [UnpackedFloat.compare, rational, hpos.ne', hpos.ne]
  · have hpos : (0 : ℚ) < m * 2 ^ e := by positivity
    cases s <;> simp [UnpackedFloat.compare, rational, hpos.ne']
  · have hm' : (0 : ℚ) < m * 2 ^ e := by positivity
    have hn' : (0 : ℚ) < n * 2 ^ q := by positivity
    have hequal := compare_finite_eq_iff (isCanonical_of_unpack hxu) (isCanonical_of_unpack hyu)
      hm hn
    cases s <;> cases t
    · change (some ((compare e q).then (compare m n)).swap == some Ordering.eq) = true ↔
        -((m : ℚ) * 2 ^ e) = -(n * 2 ^ q)
      rw [beq_iff_eq, Option.some_inj, Ordering.swap_eq_eq, hequal, neg_inj]
    · change (some Ordering.lt == some Ordering.eq) = true ↔ -((m : ℚ) * 2 ^ e) = n * 2 ^ q
      have hne : -((m : ℚ) * 2 ^ e) ≠ n * 2 ^ q := by linarith
      simp [hne]
    · change (some Ordering.gt == some Ordering.eq) = true ↔ (m : ℚ) * 2 ^ e = -(n * 2 ^ q)
      have hne : (m : ℚ) * 2 ^ e ≠ -(n * 2 ^ q) := by linarith
      simp [hne]
    · change (some ((compare e q).then (compare m n)) == some Ordering.eq) = true ↔
        (m : ℚ) * 2 ^ e = n * 2 ^ q
      rw [beq_iff_eq, Option.some_inj, hequal]

end RomanCalc.Number
