import RomanCalc.Proofs.Text.Ascii
import RomanCalc.Proofs.Uncia.Signs

/-!
# Texts that every terminal shows

The marks that are not basic are the overline and most of the dots. A numeral has an overlined
letter exactly from four thousand on (`exists_overlined_iff`), and the glyphs of four counts of
twelfths only are basic (`isBasic_glyphs_iff`). Whatever its sign, a number is written in basic
characters where both its numeral and its glyphs are (`isBasic_signed_iff`).
-/

namespace RomanCalc

open Text (IsBasic)

namespace Numeral

/-- Where the first values of a table have overlined letters and one of them fits into a number,
an overlined letter is written. -/
theorem exists_overlined_of_le {rows : List (Nat × List Glyph)}
    (hrows : ∀ row ∈ rows, 0 < row.1 ∧ ∃ glyph ∈ row.2, glyph.overlined = true)
    (rest : List (Nat × List Glyph)) {n : Nat} {row : Nat × List Glyph} (hrow : row ∈ rows)
    (hle : row.1 ≤ n) : ∃ glyph ∈ greedy (rows ++ rest) n, glyph.overlined = true := by
  induction rows with
  | nil => cases hrow
  | cons first rows ih =>
    obtain ⟨⟨hpos, glyph, hglyph, hoverlined⟩, hrows⟩ := List.forall_mem_cons.mp hrows
    rw [List.cons_append, greedy]
    rcases Nat.lt_or_ge n first.1 with hskipped | hwritten
    · -- the first row does not fit, so it is not the one that does
      have hne : row ≠ first := by
        rintro rfl
        exact Nat.not_lt.mpr hle hskipped
      obtain ⟨glyph, hglyph, hoverlined⟩ := ih hrows (List.mem_of_ne_of_mem hne hrow)
      rw [Nat.mod_eq_of_lt hskipped]
      exact ⟨glyph, List.mem_append_right _ hglyph, hoverlined⟩
    · have htimes : first.2 ∈ List.replicate (n / first.1) first.2 :=
        List.mem_replicate.mpr ⟨(Nat.div_pos hwritten hpos).ne', rfl⟩
      refine ⟨glyph, List.mem_append_left _ ?_, hoverlined⟩
      exact List.mem_flatten.mpr ⟨_, htimes, hglyph⟩

/-- Overlines are needed from four thousand on. -/
theorem exists_overlined_iff {n : Nat} :
    (∃ glyph ∈ glyphs n, glyph.overlined = true) ↔ 4000 ≤ n := by
  constructor
  · rintro ⟨glyph, hglyph, hoverlined⟩
    by_contra hlt
    rw [glyphs_eq_map_plain (not_le.mp hlt)] at hglyph
    obtain ⟨letter, -, rfl⟩ := List.mem_map.mp hglyph
    cases hoverlined
  · exact @exists_overlined_of_le (table.take 8) (by decide) (table.drop 8) n
      (4000, [vinculum .I, vinculum .V]) (by decide)

theorem isBasic_chars_iff (glyph : Glyph) : IsBasic glyph.chars ↔ ¬glyph.overlined = true := by
  obtain ⟨letter, overlined⟩ := glyph
  cases letter <;> cases overlined <;> decide

/-- A numeral is basic below four thousand. -/
theorem isBasic_spell_glyphs_iff {n : Nat} : IsBasic (spell (glyphs n)) ↔ n < 4000 := by
  calc IsBasic (spell (glyphs n)) ↔ ∀ glyph ∈ glyphs n, IsBasic glyph.chars :=
        Text.isBasic_flatMap
    _ ↔ ¬∃ glyph ∈ glyphs n, glyph.overlined = true := by
        simp only [isBasic_chars_iff, not_exists, not_and]
    _ ↔ n < 4000 := by rw [exists_overlined_iff, not_le]

end Numeral

namespace Uncia

/-- The counts of twelfths with basic glyphs: none, the two dots that are a colon, and those behind
the letter of the half. -/
def basicTwelfths : List Twelfths :=
  [0, 2, 6, 8].map Twelfths.ofNat

theorem isBasic_glyphs_iff {t : Twelfths} : IsBasic (glyphs t) ↔ t ∈ basicTwelfths := by
  revert t
  decide

/-- A number is written in basic characters where its numeral and its glyphs are basic. -/
theorem isBasic_signed_iff (q : Quantity) {n : Nat} {t : Twelfths} :
    IsBasic (q.sign ++ (Numeral.spell (Numeral.glyphs n) ++ glyphs t)) ↔
      n < 4000 ∧ t ∈ basicTwelfths := by
  have hsign : IsBasic q.sign := by
    rcases q.sign_cases with hsign | hsign <;> rw [hsign] <;> decide
  rw [Text.isBasic_append, Text.isBasic_append, Numeral.isBasic_spell_glyphs_iff,
    isBasic_glyphs_iff]
  exact and_iff_right hsign

/-- A number is written without blanks. -/
theorem isBlank_of_mem_signed {q : Quantity} {row : List Numeral.Glyph} {t : Twelfths} {c : Char}
    (h : c ∈ q.sign ++ (Numeral.spell row ++ glyphs t)) : Text.isBlank c = false := by
  rcases List.mem_append.mp h with hsign | hbody
  · rcases q.sign_cases with hnone | hminus
    · rw [hnone] at hsign
      cases hsign
    · rw [hminus, List.mem_singleton] at hsign
      rw [hsign]
      decide
  · exact (not_blank_of_mem_written hbody).1

end Uncia

/-! ## The two texts of a double -/

section

variable {x : Float} {text : List Char}

/-- A numeral of a whole part is one without glyphs. -/
theorem Numeral.ofFloat_eq_ok (hfinite : x.isFinite = true) (h : Numeral.ofFloat x = .ok text) :
    text = (Uncia.Quantity.integer (Number.wholePart x)).sign ++
      (spell (glyphs (Number.wholePart x).natAbs) ++ Uncia.glyphs Uncia.noTwelfths) := by
  rw [ofFloat_of_isFinite hfinite] at h
  rw [Uncia.glyphs_eq_nil_iff.mpr rfl, List.append_nil]
  exact (Uncia.encodeSigned_eq_ok h).2

theorem Numeral.isBasic_ofFloat_iff (hfinite : x.isFinite = true)
    (h : Numeral.ofFloat x = .ok text) :
    IsBasic text ↔ (Number.wholePart x).natAbs < 4000 := by
  rw [ofFloat_eq_ok hfinite h, Uncia.isBasic_signed_iff]
  exact and_iff_left (by decide)

theorem Uncia.isBasic_ofFloat_iff (hfinite : x.isFinite = true) (h : Uncia.ofFloat x = .ok text) :
    IsBasic text ↔ (split (magnitude x)).1 < 4000 ∧ (split (magnitude x)).2 ∈ basicTwelfths := by
  have hnonneg := split_fst_nonneg hfinite
  have hwhole : (split (magnitude x)).1.toNat < 4000 ↔ (split (magnitude x)).1 < 4000 := by omega
  rw [(ofFloat_eq_ok hfinite h).2, written, isBasic_signed_iff, hwhole]

theorem Numeral.isBlank_of_mem_ofFloat (hfinite : x.isFinite = true)
    (h : Numeral.ofFloat x = .ok text) {c : Char} (hc : c ∈ text) : Text.isBlank c = false := by
  rw [ofFloat_eq_ok hfinite h] at hc
  exact Uncia.isBlank_of_mem_signed hc

theorem Uncia.isBlank_of_mem_ofFloat (hfinite : x.isFinite = true)
    (h : Uncia.ofFloat x = .ok text) {c : Char} (hc : c ∈ text) : Text.isBlank c = false := by
  rw [(ofFloat_eq_ok hfinite h).2] at hc
  exact isBlank_of_mem_signed hc

/-- Whether a number that has a text keeps a fraction can always be told. -/
theorem Uncia.exists_hasFraction (hfinite : x.isFinite = true) (h : Uncia.ofFloat x = .ok text) :
    ∃ kept, hasFraction (.real x) = .ok kept := by
  have hlt := abs_exactValue_lt hfinite (ofFloat_eq_ok hfinite h).1
  exact ⟨_, hasFraction_of_isFinite (isFinite_count hfinite hlt)⟩

end

end RomanCalc
