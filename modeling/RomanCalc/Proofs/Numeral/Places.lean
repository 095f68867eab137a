import RomanCalc.Proofs.Numeral.Ranks

/-!
# Numerals place by place

The digits of a written number stand in its numeral from the hundred thousands down, each in the
standard form of its rank (`encode_by_places`). The glyphs of a digit weigh a unit of its rank or
more, and what stands behind the digit starts with less. So glyphs in a row belong to one digit
(`AtMostThrice.append`), and no digit has more than three of them.
-/

namespace RomanCalc.Numeral

/-- No glyph stands more than three times in a row. -/
def AtMostThrice (row : List Glyph) : Prop :=
  ∀ glyph, ¬List.replicate 4 glyph <:+: row

/-- Rows that do not meet in one glyph. -/
theorem AtMostThrice.append {front back : List Glyph} (hfront : AtMostThrice front)
    (hback : AtMostThrice back) (h : ∀ glyph ∈ front, back.head? ≠ some glyph) :
    AtMostThrice (front ++ back) := by
  intro glyph hrun
  rcases List.infix_append_iff_ne_nil.mp hrun with
    hinside | hinside | ⟨left, right, hleft, hright, hsplit, hsuffix, hprefix⟩
  · exact hfront glyph hinside
  · exact hback glyph hinside
  · have hall : ∀ g ∈ left ++ right, g = glyph := by
      rw [← hsplit]
      intro g hg
      exact List.eq_of_mem_replicate hg
    obtain ⟨g, hg⟩ := List.exists_mem_of_ne_nil left hleft
    obtain ⟨r, more, rfl⟩ := List.exists_cons_of_ne_nil hright
    obtain ⟨rest, rfl⟩ := hprefix
    have hg' : g = glyph := hall g (List.mem_append_left _ hg)
    have hr : r = glyph := hall r (List.mem_append_right _ List.mem_cons_self)
    exact h g (hsuffix.subset hg) (by rw [hg', hr]; rfl)

namespace Rank

variable {rank : Rank}

/-- Only an eight has four glyphs. -/
theorem length_digit_le {d : Nat} (hd : d < 10) (rank : Rank) :
    (rank.digit d).length ≤ 3 ∨ rank.digit d = rank.five :: List.replicate 3 rank.unit := by
  by_cases hlong : d = 8
  · subst hlong
    exact .inr rfl
  · left
    interval_cases d <;> first | exact absurd rfl hlong | simp [digit]

theorem Weighed.atMostThrice_digit (hrank : rank.Weighed) (hpos : 0 < rank.worth) {d : Nat}
    (hd : d < 10) : AtMostThrice (rank.digit d) := by
  intro glyph hrun
  rcases length_digit_le hd rank with hshort | hlong
  · have hlength := hrun.length_le
    rw [List.length_replicate] at hlength
    omega
  · -- a run of all four would make the five a unit
    rw [hlong] at hrun
    obtain ⟨hfive, hunits⟩ := List.cons.inj (hrun.eq_of_length rfl)
    obtain ⟨hunit, -⟩ := List.cons.inj hunits
    have hweight := hrank.five
    rw [← hfive, hunit, hrank.unit] at hweight
    omega

theorem Weighed.worth_le_of_mem_digit (hrank : rank.Weighed) {d : Nat} {glyph : Glyph}
    (h : glyph ∈ rank.digit d) : rank.worth ≤ glyph.weight := by
  obtain ⟨hunit, hbefore, hfive, hten⟩ := hrank
  unfold digit at h
  split at h
  · simp only [List.mem_cons, List.not_mem_nil, or_false] at h
    rcases h with rfl | rfl <;> omega
  · simp only [List.mem_cons, List.not_mem_nil, or_false] at h
    rcases h with rfl | rfl <;> omega
  · simp only [List.mem_append, List.mem_replicate] at h
    rcases h with ⟨-, rfl⟩ | ⟨-, rfl⟩ <;> omega

end Rank

theorem atMostThrice_writeDigits {list : List Rank} {bound n : Nat} (h : Falling list bound)
    (hn : n < bound) : AtMostThrice (writeDigits list n) := by
  induction h generalizing n with
  | nil =>
    intro glyph hrun
    cases List.eq_nil_of_infix_nil hrun
  | @cons rank rest hrank hrest ih =>
    have hhead := headD_writeDigits_lt hrest (n % rank.worth)
    rw [writeDigits]
    refine (hrank.atMostThrice_digit hrest.pos (Nat.div_lt_of_lt_mul (by omega))).append
      (ih (Nat.mod_lt n hrest.pos)) ?_
    intro glyph hglyph hbehind
    have hworth := hrank.worth_le_of_mem_digit hglyph
    rw [List.headD_eq_head?_getD, List.head?_map, hbehind] at hhead
    exact Nat.not_lt.mpr hworth hhead

/-- Falling ranks write each decimal digit of a number. -/
theorem writeDigits_eq_flatMap {list : List Rank} {bound : Nat} (h : Falling list bound) (n : Nat) :
    writeDigits list (n % bound) = list.flatMap fun rank => rank.digit (n / rank.worth % 10) := by
  induction h with
  | nil => rfl
  | @cons rank rest _ _ ih =>
    rw [List.flatMap_cons, writeDigits, ← ih, Nat.mul_comm, Nat.mod_mul_right_div_self,
      Nat.mod_mul_right_mod]

/-- The ranks of all numerals. There are no more than three hundred thousands, so the five and the
ten of these are not written. -/
def decimalRanks : List Rank :=
  .ofPlace vinculum 100000 hundreds :: ranks

theorem decimalRanks_falling : Falling decimalRanks 1000000 :=
  .cons (by constructor <;> rfl) ranks_falling

theorem glyphs_eq_writeDigits {n : Nat} (h : n ≤ largest) :
    glyphs n = writeDigits decimalRanks n := by
  have hdigit : n / 100000 < 4 := Nat.div_lt_of_lt_mul (Nat.lt_of_le_of_lt h (by decide))
  rw [glyphs_eq, decimalRanks, writeDigits, Rank.worth_ofPlace, Rank.digit_of_lt_four _ hdigit]
  rfl

/-- A numeral writes the decimal digits of its number one after another, each in the standard form
of its rank, so that no glyph stands more than three times in a row. -/
theorem encode_by_places {n : Int} (hpos : 1 ≤ n) (hn : n ≤ 399999) :
    ∃ row, encode n = .ok (spell row) ∧
      row = (decimalRanks.flatMap fun rank => rank.digit (n.toNat / rank.worth % 10)) ∧
      AtMostThrice row := by
  have hlargest : n ≤ largest := hn
  have hbound : n.toNat < 1000000 := by omega
  have hdigits := writeDigits_eq_flatMap decimalRanks_falling n.toNat
  rw [Nat.mod_eq_of_lt hbound] at hdigits
  have hglyphs : glyphs n.toNat = writeDigits decimalRanks n.toNat :=
    glyphs_eq_writeDigits (by omega)
  refine ⟨glyphs n.toNat, encode_of_le hlargest, hglyphs.trans hdigits, ?_⟩
  rw [hglyphs]
  exact atMostThrice_writeDigits decimalRanks_falling hbound

/-- Three hundred ninety-eight thousand nine hundred forty-nine, where three plain `M` stand behind
an overlined `V` and in front of nine hundred. -/
theorem encode_by_places_mixed :
    ∃ row : List Glyph, (1 : Int) ≤ 398949 ∧ (398949 : Int) ≤ 399999 ∧
      encode 398949 = .ok (spell row) ∧
      row = [vinculum .C, vinculum .C, vinculum .C, vinculum .X, vinculum .C, vinculum .V,
        plain .M, plain .M, plain .M, plain .C, plain .M, plain .X, plain .L, plain .I, plain .X] ∧
      AtMostThrice row := by
  obtain ⟨row, hencode, hrow, hrun⟩ := encode_by_places (n := 398949) (by decide) (by decide)
  exact ⟨row, by decide, by decide, hencode, hrow, hrun⟩

end RomanCalc.Numeral
