import RomanCalc.Text.Decomposition

/-!
# Precomposed characters

A character that is taken apart into a letter and one mark is listed in the table of sequences
(`exists_sequence`). In a text whose marks are all of one class there is no mark to move
(`orderMarks_eq_self`).
-/

namespace RomanCalc.Text

theorem toNat_ofNat {code : Nat} (h : code.isValidChar) : (Char.ofNat code).toNat = code := by
  unfold Char.ofNat
  rw [dif_pos h]
  rfl

/-- The second letter of a syllable is a vowel. -/
theorem vowel_le_of_decomposeSyllable {code : Nat} {c d : Char}
    (h : (decomposeSyllable code).map Char.ofNat = [c, d]) : 0x1161 ≤ d.toNat := by
  have hvowel : (code - 0xAC00) % 588 / 28 < 21 := by omega
  unfold decomposeSyllable at h
  simp only at h
  split at h
  · obtain ⟨-, hd⟩ := List.cons.inj h
    obtain ⟨rfl, -⟩ := List.cons.inj hd
    rw [toNat_ofNat (.inl (by omega))]
    exact Nat.le_add_right _ _
  · obtain ⟨-, hd⟩ := List.cons.inj h
    obtain ⟨-, hnil⟩ := List.cons.inj hd
    cases hnil

/-- A character that is taken apart into a letter and a mark is listed with the two. Hangul vowels
are no marks, so the bound leaves out the syllables. -/
theorem exists_sequence {p c mark : Char} (h : decomposeChar p = [c, mark])
    (hmark : mark.toNat < 0x1161) :
    ∃ codes, (p.toNat, codes) ∈ decompositionSequences ∧ codes.map Char.ofNat = [c, mark] := by
  unfold decomposeChar at h
  simp only at h
  split at h
  · cases h
  split at h
  · exact absurd hmark (Nat.not_lt.mpr (vowel_le_of_decomposeSyllable h))
  split at h
  · next codes hlookup =>
    obtain ⟨front, back, htable, -⟩ := List.lookup_eq_some_iff.mp hlookup
    refine ⟨codes, ?_, h⟩
    rw [htable]
    exact List.mem_append_right _ List.mem_cons_self
  · cases h

theorem insertMark_eq_cons {c : Char} {text : List Char}
    (h : ∀ d, text.head? = some d → combiningClass d = 0 ∨ combiningClass c ≤ combiningClass d) :
    insertMark c text = c :: text := by
  cases text with
  | nil => rfl
  | cons d rest =>
    rw [insertMark, if_neg]
    rintro ⟨hmark, hlt⟩
    rcases h d rfl with hzero | hle
    · exact hmark hzero
    · exact Nat.not_lt.mpr hle hlt

/-- Marks of one class stay where they are. -/
theorem orderMarks_eq_self {text : List Char} {k : Nat}
    (h : ∀ c ∈ text, combiningClass c = 0 ∨ combiningClass c = k) : orderMarks text = text := by
  induction text with
  | nil => rfl
  | cons c rest ih =>
    obtain ⟨hc, hrest⟩ := List.forall_mem_cons.mp h
    change insertMark c (orderMarks rest) = c :: rest
    rw [ih hrest]
    apply insertMark_eq_cons
    intro d hd
    rcases hrest d (List.mem_of_mem_head? hd) with hzero | hk
    · exact .inl hzero
    · right
      omega

end RomanCalc.Text
