import RomanCalc.Numeral.Suggestion
import RomanCalc.Proofs.Text.Case

/-!
# Letters among capitals

Capitals neither lose a letter nor make one. A character whose capitals are all letters is a letter
itself (`trailingRun_upperChar`), and a letter that stands among capitals is a capital
(`ofCapital?_of_mem_upperChar`). So capitals that are read as one letter once they are put in
capitals again were that letter before (`upper_eq_of_upper_upper`).
-/

namespace RomanCalc.Numeral

theorem basic_or_dotless_of_letter {c : Char} (h : isLetterChar c = true) :
    c.toNat < 0x80 ∨ c = 'ı' := by
  obtain ⟨l, hl⟩ := Option.isSome_iff_exists.mp h
  unfold Letter.ofChar? at hl
  split at hl <;> first | exact .inl (by decide) | exact .inr rfl | cases hl

theorem isLetterChar_toUpper {c : Char} (hbasic : c.toNat < 0x80) (hc : isLetterChar c = false) :
    isLetterChar c.toUpper = false := by
  revert hc
  refine Text.forall_basic hbasic ?_
  decide +kernel

/-- Among the characters with several capitals, only ligatures have a letter at the end of them. -/
theorem trailingRun_expansion {code : Nat} {codes : List Nat}
    (h : (code, codes) ∈ Text.upperExpansions) :
    (∃ d ∈ codes.map Char.ofNat, isLetterChar d = false) ∧
      (trailingRun (codes.map Char.ofNat)).length ≤ 1 := by
  have hall : (Text.upperExpansions.all fun entry =>
      (entry.2.map Char.ofNat).any (fun d => !isLetterChar d) &&
        decide ((trailingRun (entry.2.map Char.ofNat)).length ≤ 1)) = true := by
    decide +kernel
  have hentry := List.all_eq_true.mp hall _ h
  rw [Bool.and_eq_true, decide_eq_true_eq, List.any_eq_true] at hentry
  simpa only [Bool.not_eq_true'] using hentry

/-- A character that is no letter has one in capitals that is none, and at most one letter behind
it. -/
theorem trailingRun_upperChar {c : Char} (hc : isLetterChar c = false) :
    (∃ d ∈ Text.upperChar c, isLetterChar d = false) ∧
      (trailingRun (Text.upperChar c)).length ≤ 1 := by
  have hone : ∀ d, isLetterChar d = false →
      (∃ e ∈ [d], isLetterChar e = false) ∧ (trailingRun [d]).length ≤ 1 := by
    intro d hd
    simp [trailingRun, hd]
  rcases Text.upperChar_cases c with
    ⟨hbasic, hupper⟩ | ⟨codes, htable, hupper⟩ | hspecial | ⟨d, hupper, hbeyond, hdotless⟩
  · rw [hupper]
    exact hone _ (isLetterChar_toUpper hbasic hc)
  · rw [hupper]
    exact trailingRun_expansion htable
  · rcases hspecial with rfl | rfl
    · exact absurd hc (by decide)
    · have hupper : Text.upperChar 'ſ' = ['S'] := by decide +kernel
      rw [hupper]
      exact hone 'S' rfl
  · rw [hupper]
    apply hone
    cases hletter : isLetterChar d with
    | false => rfl
    | true =>
      rcases basic_or_dotless_of_letter hletter with hbasic | hd
      · exact absurd hbasic (Nat.not_lt.mpr hbeyond)
      · exact absurd hd hdotless

/-- A letter that stands among capitals is a capital. -/
theorem ofCapital?_of_mem_upperChar {c d : Char} (h : d ∈ Text.upperChar c) :
    Letter.ofCapital? d = Letter.ofChar? d := by
  rcases Text.upperChar_cases c with
    ⟨hbasic, hupper⟩ | ⟨codes, htable, hupper⟩ | hspecial | ⟨e, hupper, hbeyond, hdotless⟩
  · rw [hupper, List.mem_singleton] at h
    rw [h]
    refine Text.forall_basic hbasic ?_
    decide +kernel
  · have hall : (Text.upperExpansions.all fun entry => (entry.2.map Char.ofNat).all fun d =>
        Letter.ofCapital? d = Letter.ofChar? d) = true := by
      decide +kernel
    rw [hupper] at h
    simpa using List.all_eq_true.mp (List.all_eq_true.mp hall _ htable) d h
  · rcases hspecial with rfl | rfl
    · have hupper : Text.upperChar 'ı' = ['I'] := by decide +kernel
      rw [hupper, List.mem_singleton] at h
      rw [h]
      rfl
    · have hupper : Text.upperChar 'ſ' = ['S'] := by decide +kernel
      rw [hupper, List.mem_singleton] at h
      rw [h]
      rfl
  · rw [hupper, List.mem_singleton] at h
    subst h
    have hother : Letter.ofChar? d = none := by
      rw [Option.eq_none_iff_forall_ne_some]
      intro l hl
      rcases basic_or_dotless_of_letter (Option.isSome_iff_exists.mpr ⟨l, hl⟩) with hbasic | hd
      · exact Nat.not_lt.mpr hbeyond hbasic
      · exact hdotless hd
    rw [hother, Option.eq_none_iff_forall_ne_some]
    intro l hl
    rw [Letter.ofCapital?_eq_some_iff.mp hl, Letter.ofChar?_char] at hother
    cases hother

/-- A character with a letter for its capitals writes that letter. -/
theorem ofChar?_of_upperChar {c : Char} {l : Letter} (h : Text.upperChar c = [l.char]) :
    Letter.ofChar? c = some l := by
  cases hc : Letter.ofChar? c with
  | none =>
    have hnone : isLetterChar c = false := by simp [isLetterChar, hc]
    obtain ⟨⟨d, hd, hother⟩, -⟩ := trailingRun_upperChar hnone
    rw [h, List.mem_singleton] at hd
    rw [hd, isLetterChar, Letter.ofChar?_char] at hother
    cases hother
  | some a =>
    have hcapital : [l.char] = [a.char] := h.symm.trans (Letter.upperChar_of_ofChar? hc)
    rw [← Letter.ofChar?_char l, List.singleton_inj.mp hcapital, Letter.ofChar?_char]

/-- Capitals with a letter for their own capitals are that letter. -/
theorem upper_eq_of_upper_upper {s : List Char} {l : Letter}
    (h : Text.upper (Text.upper s) = [l.char]) : Text.upper s = [l.char] := by
  obtain ⟨d, hs, hd⟩ := Text.exists_of_upper_singleton h
  obtain ⟨c, rfl, hc⟩ := Text.exists_of_upper_singleton hs
  have hmem : d ∈ Text.upperChar c := by simp [hc]
  have hcapital : Letter.ofCapital? d = some l :=
    (ofCapital?_of_mem_upperChar hmem).trans (ofChar?_of_upperChar hd)
  rw [hs, Letter.ofCapital?_eq_some_iff.mp hcapital]

end RomanCalc.Numeral
