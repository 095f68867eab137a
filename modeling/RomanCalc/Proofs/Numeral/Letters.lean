import RomanCalc.Numeral.Decode

/-!
# Texts of letters

A text whose characters all write numeral letters is known by its letters: they are its capitals
(`upper_of_letters`), they decide whether it is a numeral (`isNumeral_of_letters`), and they give
its value (`value?_of_letters`). The only other character of numerals is the dotted capital I, which
no value is known of, so that a text is read as no number for one of two causes
(`read_eq_error_iff`).
-/

namespace RomanCalc.Numeral

theorem ofChars?_cons_eq_some_iff {c : Char} {s : List Char} {letters : List Letter} :
    Letter.ofChars? (c :: s) = some letters ↔
      ∃ l more, Letter.ofChar? c = some l ∧ Letter.ofChars? s = some more ∧
        letters = l :: more := by
  change (c :: s).mapM Letter.ofChar? = some letters ↔ _
  rw [List.mapM_cons]
  constructor
  · intro h
    obtain ⟨l, hl, h⟩ := Option.bind_eq_some_iff.mp h
    obtain ⟨more, hmore, h⟩ := Option.bind_eq_some_iff.mp h
    cases h
    exact ⟨l, more, hl, hmore, rfl⟩
  · rintro ⟨l, more, hl, hmore, rfl⟩
    exact Option.bind_eq_some_iff.mpr ⟨l, hl, Option.bind_eq_some_iff.mpr ⟨more, hmore, rfl⟩⟩

theorem ofChars?_append_eq_some_iff {s t : List Char} {letters : List Letter} :
    Letter.ofChars? (s ++ t) = some letters ↔
      ∃ front back, Letter.ofChars? s = some front ∧ Letter.ofChars? t = some back ∧
        letters = front ++ back := by
  change (s ++ t).mapM Letter.ofChar? = some letters ↔ _
  rw [List.mapM_append]
  constructor
  · intro h
    obtain ⟨front, hfront, h⟩ := Option.bind_eq_some_iff.mp h
    obtain ⟨back, hback, h⟩ := Option.bind_eq_some_iff.mp h
    cases h
    exact ⟨front, back, hfront, hback, rfl⟩
  · rintro ⟨front, back, hfront, hback, rfl⟩
    exact Option.bind_eq_some_iff.mpr
      ⟨front, hfront, Option.bind_eq_some_iff.mpr ⟨back, hback, rfl⟩⟩

theorem exists_letters {s : List Char} (h : ∀ c ∈ s, isLetterChar c = true) :
    ∃ letters, Letter.ofChars? s = some letters := by
  induction s with
  | nil => exact ⟨[], rfl⟩
  | cons c s ih =>
    rw [List.forall_mem_cons] at h
    obtain ⟨l, hl⟩ := Option.isSome_iff_exists.mp h.1
    obtain ⟨letters, hletters⟩ := ih h.2
    exact ⟨l :: letters, ofChars?_cons_eq_some_iff.mpr ⟨l, letters, hl, hletters, rfl⟩⟩

theorem isLetterChar_of_mem_letters {s : List Char} {letters : List Letter}
    (h : Letter.ofChars? s = some letters) {c : Char} (hc : c ∈ s) : isLetterChar c = true := by
  induction s generalizing letters with
  | nil => cases hc
  | cons d s ih =>
    obtain ⟨l, more, hl, hmore, rfl⟩ := ofChars?_cons_eq_some_iff.mp h
    rcases List.mem_cons.mp hc with rfl | hc
    · exact Option.isSome_iff_exists.mpr ⟨l, hl⟩
    · exact ih hmore hc

theorem length_of_letters {s : List Char} {letters : List Letter}
    (h : Letter.ofChars? s = some letters) : letters.length = s.length := by
  induction s generalizing letters with
  | nil =>
    cases h
    rfl
  | cons c s ih =>
    obtain ⟨l, more, -, hmore, rfl⟩ := ofChars?_cons_eq_some_iff.mp h
    rw [List.length_cons, List.length_cons, ih hmore]

theorem ofChars?_spell (letters : List Letter) :
    Letter.ofChars? (Letter.spell letters) = some letters := by
  induction letters with
  | nil => rfl
  | cons l letters ih =>
    exact ofChars?_cons_eq_some_iff.mpr ⟨l, letters, Letter.ofChar?_char l, ih, rfl⟩

theorem spell_injective {a b : List Letter} (h : Letter.spell a = Letter.spell b) : a = b := by
  apply Option.some.inj
  rw [← ofChars?_spell a, ← ofChars?_spell b, h]

section

variable {s : List Char} {letters : List Letter}

/-- The capitals of a text of letters. -/
theorem upper_of_letters (h : Letter.ofChars? s = some letters) :
    Text.upper s = Letter.spell letters := by
  induction s generalizing letters with
  | nil =>
    cases h
    rfl
  | cons c s ih =>
    obtain ⟨l, more, hl, hmore, rfl⟩ := ofChars?_cons_eq_some_iff.mp h
    rw [Text.upper_cons, Letter.upperChar_of_ofChar? hl, ih hmore]
    rfl

theorem grammarLetter?_of_ofChar? {c : Char} {l : Letter} (h : Letter.ofChar? c = some l) :
    grammarLetter? c = some l := by
  have hne : c ≠ 'İ' := by
    rintro rfl
    cases (show Letter.ofChar? 'İ' = none from rfl).symm.trans h
  rw [grammarLetter?, if_neg hne, h]

theorem grammarLetters_of_letters (h : Letter.ofChars? s = some letters) :
    s.mapM grammarLetter? = some letters := by
  induction s generalizing letters with
  | nil => exact h
  | cons c s ih =>
    obtain ⟨l, more, hl, hmore, rfl⟩ := ofChars?_cons_eq_some_iff.mp h
    rw [List.mapM_cons, grammarLetter?_of_ofChar? hl, ih hmore]
    rfl

/-- A text of letters is a numeral where the letters are well formed. -/
theorem isNumeral_of_letters (h : Letter.ofChars? s = some letters) :
    isNumeral s = isWellFormed letters := by
  rw [isNumeral, grammarLetters_of_letters h]

/-- The value of a text of letters is that of the letters, if they are well formed. -/
theorem value?_of_letters (h : Letter.ofChars? s = some letters) :
    value? s = .ok (if isWellFormed letters then some (lettersValue letters) else none) := by
  rw [value?, isNumeral_of_letters h, h]
  cases isWellFormed letters <;> rfl

end

/-! ## Texts that are no letters -/

section

variable {s : List Char} {letters : List Letter}

theorem letter_of_mem_grammarLetters (h : s.mapM grammarLetter? = some letters) {c : Char}
    (hc : c ∈ s) : c = 'İ' ∨ isLetterChar c = true := by
  induction s generalizing letters with
  | nil => cases hc
  | cons d s ih =>
    rw [List.mapM_cons] at h
    obtain ⟨l, hl, h⟩ := Option.bind_eq_some_iff.mp h
    obtain ⟨more, hmore, -⟩ := Option.bind_eq_some_iff.mp h
    rcases List.mem_cons.mp hc with rfl | hc
    · unfold grammarLetter? at hl
      split at hl
      · next hdotted => exact .inl hdotted
      · exact .inr (Option.isSome_iff_exists.mpr ⟨l, hl⟩)
    · exact ih hmore hc

theorem letter_of_mem_numeral (h : isNumeral s = true) {c : Char} (hc : c ∈ s) :
    c = 'İ' ∨ isLetterChar c = true := by
  unfold isNumeral at h
  split at h
  · next letters hletters => exact letter_of_mem_grammarLetters hletters hc
  · cases h

theorem letters_of_numeral (h : isNumeral s = true) (hdotted : 'İ' ∉ s) :
    ∀ c ∈ s, isLetterChar c = true := by
  intro c hc
  rcases letter_of_mem_numeral h hc with rfl | hletter
  · exact absurd hc hdotted
  · exact hletter

/-- The letters of a numeral, unless it has a dotted capital I. -/
theorem letters_eq_none_iff (h : isNumeral s = true) : Letter.ofChars? s = none ↔ 'İ' ∈ s := by
  constructor
  · intro hnone
    apply Decidable.byContradiction
    intro hdotted
    obtain ⟨letters, hletters⟩ := exists_letters (letters_of_numeral h hdotted)
    cases hnone.symm.trans hletters
  · intro hdotted
    rw [Option.eq_none_iff_forall_ne_some]
    intro letters hletters
    exact absurd (isLetterChar_of_mem_letters hletters hdotted) (by decide)

theorem read_eq_ok_iff {n : Nat} : read s = .ok n ↔ value? s = .ok (some n) := by
  unfold read
  rcases value? s with e | _ | m <;> simp [Except.bind]

theorem isNumeral_of_value? {n : Nat} (h : value? s = .ok (some n)) : isNumeral s = true := by
  unfold value? at h
  split at h
  · assumption
  · cases h

/-- A text that is read as no number is no numeral, or has a dotted capital I. -/
theorem read_eq_error_iff {failure : Failure} :
    read s = .error failure ↔
      isNumeral s = false ∧ failure = .fault (.invalidNumeral s) ∨
        isNumeral s = true ∧ 'İ' ∈ s ∧ failure = .unlisted ['İ'] := by
  cases hnumeral : isNumeral s with
  | false =>
    have hvalue : value? s = .ok none := by simp [value?, hnumeral]
    simp [read, hvalue, Except.bind, eq_comm]
  | true =>
    rw [← letters_eq_none_iff hnumeral]
    cases hletters : Letter.ofChars? s with
    | none =>
      have hvalue : value? s = .error (.unlisted ['İ']) := by simp [value?, hnumeral, hletters]
      simp [read, hvalue, Except.bind, eq_comm]
    | some letters =>
      have hvalue : value? s = .ok (some (lettersValue letters)) := by
        simp [value?, hnumeral, hletters]
      simp [read, hvalue, Except.bind]

end

end RomanCalc.Numeral
