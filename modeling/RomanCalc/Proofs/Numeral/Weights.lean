import Mathlib.Algebra.Group.Nat.Defs
import RomanCalc.Numeral.Decode

/-!
# The weight of any text

Letters and their overlines weigh ones and fives of powers of ten (`IsWeight`). A lighter weight is
therefore at most half of a heavier one, and what is taken off in front of the heavier one is made
up for by it, along however long a rise: a row weighs no less than its first weight
(`headD_le_weigh`), and nothing only if all its weights are nothing (`weigh_eq_zero_iff`). So no
text weighs less than nothing, and no letters cancel one another (`decode_never_cancels`).
-/

namespace RomanCalc.Numeral

/-- The weights that characters and their overlines can have. -/
inductive IsWeight : Nat → Prop
  | none : IsWeight 0
  | scaled {d : Nat} (hd : d = 1 ∨ d = 5) (k : Nat) : IsWeight (d * 10 ^ k)

namespace IsWeight

variable {v w : Nat}

theorem ten_pow_cases (j k : Nat) :
    10 * 10 ^ j ≤ 10 ^ k ∨ 10 ^ j = 10 ^ k ∨ 10 * 10 ^ k ≤ 10 ^ j := by
  have hstep : ∀ {j k : Nat}, j < k → 10 * 10 ^ j ≤ 10 ^ k := by
    intro j k h
    rw [Nat.mul_comm, ← Nat.pow_succ]
    exact Nat.pow_le_pow_right (by decide) h
  rcases Nat.lt_trichotomy j k with hlt | rfl | hgt
  · exact .inl (hstep hlt)
  · exact .inr (.inl rfl)
  · exact .inr (.inr (hstep hgt))

/-- A lighter weight is at most half of a heavier one. -/
theorem two_mul_le (hv : IsWeight v) (hw : IsWeight w) (h : v < w) : 2 * v ≤ w := by
  cases hv with
  | none => exact Nat.zero_le w
  | scaled hd j =>
    cases hw with
    | none => exact absurd h (Nat.not_lt_zero _)
    | scaled he k =>
      have hpow := ten_pow_cases j k
      rcases hd with rfl | rfl <;> rcases he with rfl | rfl <;> omega

theorem mul_pow (h : IsWeight w) (k : Nat) : IsWeight (w * 10 ^ k) := by
  cases h with
  | none =>
    rw [Nat.zero_mul]
    exact .none
  | scaled hd j =>
    rw [Nat.mul_assoc, ← Nat.pow_add]
    exact .scaled hd _

end IsWeight

/-! ## Rows of weights -/

section

variable {ws : List Nat}

theorem isWeight_headD (h : ∀ w ∈ ws, IsWeight w) : IsWeight (ws.headD 0) := by
  cases ws with
  | nil => exact .none
  | cons w ws => exact h w List.mem_cons_self

/-- A row weighs no less than its first weight. Where this is taken off, the induction leaves the
heavier weight behind it, which is twice the first one at least. -/
theorem headD_le_weigh (h : ∀ w ∈ ws, IsWeight w) : (ws.headD 0 : Int) ≤ weigh ws := by
  induction ws with
  | nil => exact Int.le_refl 0
  | cons v ws ih =>
    obtain ⟨hv, hws⟩ := List.forall_mem_cons.mp h
    have hrest := ih hws
    rw [List.headD_cons, weigh]
    split
    · next hrise =>
      have hhalf := hv.two_mul_le (isWeight_headD hws) hrise
      omega
    · omega

theorem weigh_eq_zero_iff (h : ∀ w ∈ ws, IsWeight w) : weigh ws = 0 ↔ ∀ w ∈ ws, w = 0 := by
  induction ws with
  | nil => simp [weigh]
  | cons v ws ih =>
    obtain ⟨-, hws⟩ := List.forall_mem_cons.mp h
    have hfirst := headD_le_weigh h
    rw [List.headD_cons] at hfirst
    rw [List.forall_mem_cons, ← ih hws]
    constructor
    · intro hzero
      have hv : v = 0 := by omega
      refine ⟨hv, ?_⟩
      rw [weigh] at hzero
      split at hzero <;> omega
    · rintro ⟨rfl, hzero⟩
      rw [weigh]
      split <;> omega

end

/-! ## Weights of texts -/

theorem isWeight_charWeight (c : Char) : IsWeight (charWeight c) := by
  unfold charWeight
  cases Letter.ofCapital? c with
  | none => exact .none
  | some l =>
    cases l with
    | I => exact .scaled (.inl rfl) 0
    | V => exact .scaled (.inr rfl) 0
    | X => exact .scaled (.inl rfl) 1
    | L => exact .scaled (.inr rfl) 1
    | C => exact .scaled (.inl rfl) 2
    | D => exact .scaled (.inr rfl) 2
    | M => exact .scaled (.inl rfl) 3

theorem charWeight_eq_zero_iff {c : Char} : charWeight c = 0 ↔ ∀ l : Letter, l.char ≠ c := by
  unfold charWeight
  cases h : Letter.ofCapital? c with
  | none =>
    refine iff_of_true rfl ?_
    rintro l rfl
    rw [Letter.ofCapital?_char] at h
    cases h
  | some l =>
    have hpos : l.weight ≠ 0 := by cases l <;> decide
    exact iff_of_false hpos fun hne => hne l (Letter.ofCapital?_eq_some_iff.mp h).symm

theorem isWeight_of_mem_weights (text : List Char) : ∀ w ∈ weights text, IsWeight w := by
  induction text with
  | nil => simp [weights]
  | cons c text ih =>
    rw [weights]
    split
    · exact ih
    · have hpow : ∀ count, Nat.pow 1000 count = 10 ^ (3 * count) :=
        fun count => (Nat.pow_mul 10 3 count).symm
      rw [hpow]
      exact List.forall_mem_cons.mpr ⟨(isWeight_charWeight c).mul_pow _, ih⟩

/-- The weights of a text are nothing where it holds no letter, however many overlines it has. -/
theorem weights_eq_zero_iff {text : List Char} :
    (∀ w ∈ weights text, w = 0) ↔ ∀ l : Letter, l.char ∉ text := by
  induction text with
  | nil => simp [weights]
  | cons c text ih =>
    simp only [List.mem_cons, not_or, forall_and]
    rw [← ih, weights]
    split
    · next hmark =>
      have hletter : ∀ l : Letter, l.char ≠ c := by
        rintro l rfl
        cases l <;> cases hmark
      exact (and_iff_right hletter).symm
    · have hpow : Nat.pow 1000 (text.takeWhile (· = overline)).length ≠ 0 :=
        Nat.ne_of_gt (Nat.pow_pos (by decide))
      rw [List.forall_mem_cons, ← charWeight_eq_zero_iff, Nat.mul_eq_zero, or_iff_left hpow]

/-- No text weighs less than nothing, and a text weighs nothing only where no letter is among its
capitals once they are taken apart: neither a rise nor overlines, nor characters that are no letters
between them, make letters cancel one another. -/
theorem decode_never_cancels (text : List Char) :
    0 ≤ decode text ∧
      (decode text = 0 ↔ ∀ l : Letter, l.char ∉ Text.decompose (Text.upper text)) := by
  have hweights := isWeight_of_mem_weights (Text.decompose (Text.upper text))
  constructor
  · exact Int.le_trans (Int.natCast_nonneg _) (headD_le_weigh hweights)
  · rw [decode, weigh_eq_zero_iff hweights, weights_eq_zero_iff]

/-- Two rises, with a character that is no letter between them. -/
example : decode ['I', 'v', 'X', '?', 'L', 'C', 'D', 'M'] = 4 + 350 := by decide +kernel

end RomanCalc.Numeral
