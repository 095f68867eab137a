import RomanCalc.Proofs.Numeral.Letters
import RomanCalc.Proofs.Numeral.Standard

/-!
# Numerals with a dotted capital I

The grammar takes a dotted capital I for an I (`isNumeral_undotted`), although it is no numeral
letter and has no value. A text without it is read as a number up to 4999 or is an invalid numeral
(`read_of_letters`). A numeral that holds one is neither, since its value is looked up in vain, and
no other text is read in this way (`read_by_dots`).
-/

namespace RomanCalc.Numeral

/-- The letter that a dotted capital I is taken for; any other character is itself. -/
def undotted (c : Char) : Char :=
  if c = 'İ' then 'I' else c

/-- A numeral with dotted capitals in place of letters I. -/
def IsDottedNumeral (s : List Char) : Prop :=
  'İ' ∈ s ∧ isNumeral (s.map undotted) = true

theorem grammarLetter?_undotted (c : Char) : grammarLetter? (undotted c) = grammarLetter? c := by
  unfold undotted
  split
  · next hdotted =>
    rw [hdotted]
    rfl
  · rfl

/-- The dots make no difference to the grammar. -/
theorem isNumeral_undotted (s : List Char) : isNumeral (s.map undotted) = isNumeral s := by
  have hcomp : grammarLetter? ∘ undotted = grammarLetter? := funext grammarLetter?_undotted
  rw [isNumeral, isNumeral, List.mapM_map, hcomp]

/-- A numeral of letters is read as a number. -/
theorem read_of_letters {s : List Char} (h : isNumeral s = true)
    (hletters : ∀ c ∈ s, isLetterChar c = true) : ∃ n, 1 ≤ n ∧ n ≤ 4999 ∧ read s = .ok n := by
  obtain ⟨letters, hs⟩ := exists_letters hletters
  have hwell : isWellFormed letters = true := by rw [← isNumeral_of_letters hs, h]
  obtain ⟨hpos, hlt⟩ := lettersValue_bounds hwell
  refine ⟨lettersValue letters, hpos, Nat.le_of_lt_succ hlt, ?_⟩
  rw [read_eq_ok_iff, value?_of_letters hs, if_pos hwell]

/-- A text is read as a number from one to 4999 or is an invalid numeral, and a numeral is made of
numeral letters, unless the text is a numeral with a dotted capital I: then it passes for a numeral,
and looking up its value fails. -/
theorem read_by_dots (s : List Char) :
    (¬IsDottedNumeral s →
        ((∃ n, 1 ≤ n ∧ n ≤ 4999 ∧ read s = .ok n) ∨
          read s = .error (.fault (.invalidNumeral s))) ∧
        (isNumeral s = true → ∀ c ∈ s, isLetterChar c = true)) ∧
      (IsDottedNumeral s →
        read s = .error (.unlisted ['İ']) ∧ isNumeral s = true ∧
          ∃ c ∈ s, isLetterChar c = false) := by
  rw [IsDottedNumeral, isNumeral_undotted]
  constructor
  · intro hplain
    have hletters : isNumeral s = true → ∀ c ∈ s, isLetterChar c = true :=
      fun hnumeral => letters_of_numeral hnumeral fun hdotted => hplain ⟨hdotted, hnumeral⟩
    refine ⟨?_, hletters⟩
    cases hnumeral : isNumeral s with
    | true => exact .inl (read_of_letters hnumeral (hletters hnumeral))
    | false => exact .inr (read_eq_error_iff.mpr (.inl ⟨hnumeral, rfl⟩))
  · rintro ⟨hdotted, hnumeral⟩
    exact ⟨read_eq_error_iff.mpr (.inr ⟨hnumeral, hdotted, rfl⟩), hnumeral, 'İ', hdotted, rfl⟩

/-- Fourteen with a dotless small i, and with a dotted capital. -/
theorem read_by_dots_fourteen :
    ¬IsDottedNumeral ['x', 'ı', 'v'] ∧ read ['x', 'ı', 'v'] = .ok 14 ∧
      (∀ c ∈ ['x', 'ı', 'v'], isLetterChar c = true) ∧
      IsDottedNumeral ['x', 'İ', 'v'] ∧ read ['x', 'İ', 'v'] = .error (.unlisted ['İ']) := by
  have hplain : ¬IsDottedNumeral ['x', 'ı', 'v'] := fun h => absurd h.1 (by decide)
  have hdotted : IsDottedNumeral ['x', 'İ', 'v'] := ⟨by decide, rfl⟩
  obtain ⟨-, hletters⟩ := (read_by_dots ['x', 'ı', 'v']).1 hplain
  obtain ⟨hread, -⟩ := (read_by_dots ['x', 'İ', 'v']).2 hdotted
  exact ⟨hplain, rfl, hletters rfl, hdotted, hread⟩

/-- A dotted capital I is a numeral that is no letter, and reading it is no fault. -/
theorem dotted_numeral_unread :
    isNumeral ['İ'] = true ∧ isLetterChar 'İ' = false ∧
      read ['İ'] = .error (.unlisted ['İ']) :=
  ⟨rfl, rfl, rfl⟩

end RomanCalc.Numeral
