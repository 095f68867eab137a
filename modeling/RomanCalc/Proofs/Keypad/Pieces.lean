import RomanCalc.Proofs.Keypad.Runs

/-!
# Displays cut into pieces

A display is cut in one way into its maximal runs of letters and the single characters between them
(`IsCut`, `exists_isCut`, `IsCut.unique`). An interpretation looks at each piece with the character
behind it: a run in front of a number or an operator becomes the value of its numeral, every other
run is put in capitals, and all other characters stay as they are (`interpret_cut`).
-/

namespace RomanCalc.Keypad

/-- A piece of a display. -/
inductive Piece
  | run (letters : List Char)
  | other (c : Char)
deriving DecidableEq

/-- The characters of a piece. -/
def Piece.chars : Piece → List Char
  | run letters => letters
  | other c => [c]

/-- The text of pieces. -/
def join (pieces : List Piece) : List Char :=
  pieces.flatMap Piece.chars

/-- Pieces cut a text where each run is made of letters and has no letter behind it, and every
other piece is a single character that is no letter. -/
inductive IsCut : List Piece → List Char → Prop
  | nil : IsCut [] []
  | run {letters text : List Char} {pieces : List Piece} (hne : letters ≠ [])
      (hletters : ∀ c ∈ letters, isLetterChar c = true)
      (hmaximal : ∀ c, text.head? = some c → isLetterChar c = false) :
      IsCut pieces text → IsCut (.run letters :: pieces) (letters ++ text)
  | other {c : Char} {text : List Char} {pieces : List Piece} (hc : isLetterChar c = false) :
      IsCut pieces text → IsCut (.other c :: pieces) (c :: text)

/-- A run as the value of its numeral, and in capitals where it is none. -/
def settled (run : List Char) : List Char :=
  match Numeral.value? (Text.upper run) with
  | .ok (some n) => Nat.toDigits 10 n
  | _ => Text.upper run

/-- What stands for a piece with a character behind it, where `atEnd` says what becomes of a run
with none. -/
def Piece.image (atEnd : List Char → List Char) : Piece → Option Char → List Char
  | other c, _ => [c]
  | run letters, none => atEnd letters
  | run letters, some c =>
    if isNumberChar c || isOperatorChar c then settled letters else Text.upper letters

/-- What stands for pieces, each with the character behind it. -/
def images (atEnd : List Char → List Char) : List Piece → List Char
  | [] => []
  | piece :: rest => piece.image atEnd (join rest).head? ++ images atEnd rest

/-! ## Cutting -/

variable {pieces : List Piece} {text : List Char}

theorem IsCut.join_eq (h : IsCut pieces text) : join pieces = text := by
  induction h with
  | nil => rfl
  | @run letters _ pieces _ _ _ _ ih =>
    change letters ++ join pieces = _
    rw [ih]
  | @other c _ pieces _ _ ih =>
    change c :: join pieces = _
    rw [ih]

/-- Every text can be cut: a letter in front makes the run behind it longer, or is a run itself. -/
theorem exists_isCut (text : List Char) : ∃ pieces, IsCut pieces text := by
  induction text with
  | nil => exact ⟨[], .nil⟩
  | cons c text ih =>
    obtain ⟨pieces, h⟩ := ih
    cases hc : isLetterChar c with
    | false => exact ⟨_, .other hc h⟩
    | true =>
      have hone : ∀ d ∈ [c], isLetterChar d = true := by simp [hc]
      cases h with
      | nil => exact ⟨_, .run (List.cons_ne_nil c []) hone (by simp) .nil⟩
      | @run letters text _ hne hletters hmaximal h =>
        have hall : ∀ d ∈ c :: letters, isLetterChar d = true :=
          List.forall_mem_cons.mpr ⟨hc, hletters⟩
        exact ⟨_, .run (List.cons_ne_nil c letters) hall hmaximal h⟩
      | @other d text _ hd h =>
        have hmaximal : ∀ e, (d :: text).head? = some e → isLetterChar e = false := by
          simp [hd]
        exact ⟨_, .run (List.cons_ne_nil c []) hone hmaximal (.other hd h)⟩

/-- The letters in front of a text whose rest starts with none. -/
theorem span_letters {letters rest : List Char} (hletters : ∀ c ∈ letters, isLetterChar c = true)
    (hrest : ∀ c, rest.head? = some c → isLetterChar c = false) :
    (letters ++ rest).takeWhile isLetterChar = letters ∧
      (letters ++ rest).dropWhile isLetterChar = rest := by
  rw [List.takeWhile_append_of_pos hletters, List.dropWhile_append_of_pos hletters]
  cases rest with
  | nil => simp
  | cons c rest =>
    have hc : ¬isLetterChar c = true := by simp [hrest c rfl]
    rw [List.takeWhile_cons_of_neg hc, List.dropWhile_cons_of_neg hc, List.append_nil]
    exact ⟨rfl, rfl⟩

/-- The first piece of a text is the run in front of it, or its first character. -/
theorem IsCut.first (h : IsCut pieces text) :
    (text = [] ∧ pieces = []) ∨
      (∃ rest, text.takeWhile isLetterChar ≠ [] ∧
        pieces = .run (text.takeWhile isLetterChar) :: rest ∧
        IsCut rest (text.dropWhile isLetterChar)) ∨
      ∃ c rest behind, text = c :: behind ∧ isLetterChar c = false ∧ pieces = .other c :: rest ∧
        IsCut rest behind := by
  cases h with
  | nil => exact .inl ⟨rfl, rfl⟩
  | @run letters behind rest hne hletters hmaximal h =>
    obtain ⟨htake, hdrop⟩ := span_letters hletters hmaximal
    right
    left
    rw [htake, hdrop]
    exact ⟨rest, hne, rfl, h⟩
  | @other c behind rest hc h => exact .inr (.inr ⟨c, rest, behind, rfl, hc, rfl, h⟩)

/-- A text is cut in one way only. -/
theorem IsCut.unique {others : List Piece} (h : IsCut pieces text) (hothers : IsCut others text) :
    others = pieces := by
  induction h generalizing others with
  | nil =>
    rcases hothers.first with ⟨-, hnil⟩ | ⟨-, hrun, -⟩ | ⟨c, _, _, hcons, -⟩
    · exact hnil
    · exact absurd rfl hrun
    · cases hcons
  | @run letters behind pieces hne hletters hmaximal h ih =>
    obtain ⟨a, more, rfl⟩ := List.exists_cons_of_ne_nil hne
    obtain ⟨htake, hdrop⟩ := span_letters hletters hmaximal
    rcases hothers.first with ⟨hnil, -⟩ | ⟨rest, -, rfl, hrest⟩ | ⟨c, _, _, hcons, hc, -⟩
    · cases hnil
    · rw [hdrop] at hrest
      rw [htake, ih hrest]
    · have ha : isLetterChar a = true := hletters a List.mem_cons_self
      rw [(List.cons.inj hcons).1, hc] at ha
      cases ha
  | @other c behind pieces hc h ih =>
    rcases hothers.first with ⟨hnil, -⟩ | ⟨-, hrun, -⟩ | ⟨d, rest, behind', hcons, -, rfl, hrest⟩
    · cases hnil
    · rw [List.takeWhile_cons_of_neg (by simp [hc])] at hrun
      exact absurd rfl hrun
    · obtain ⟨rfl, rfl⟩ := List.cons.inj hcons
      rw [ih hrest]

/-! ## Interpreting the pieces -/

/-- A run of letters is settled by the value of its text. -/
theorem settle_eq_settled {run : List Char} {letters : List Letter}
    (h : Letter.ofChars? run = some letters) : settle letters = settled run := by
  rw [settled, Numeral.upper_of_letters h,
    Numeral.value?_of_letters (Numeral.ofChars?_spell letters)]
  cases hformed : Numeral.isWellFormed letters with
  | true => exact settle_of_wellFormed hformed
  | false => exact settle_of_not_wellFormed hformed

/-- A run with a character behind it is settled by a number or an operator and kept otherwise. -/
theorem interrupt_eq_image {run : List Char} {letters : List Letter} {c : Char}
    (h : Letter.ofChars? run = some letters) (hc : isLetterChar c = false)
    (atEnd : List Char → List Char) :
    interrupt c letters = (Piece.run run).image atEnd (some c) := by
  rw [interrupt, Piece.image, ← settle_eq_settled h, Numeral.upper_of_letters h]
  by_cases hother : classify c = .other
  · obtain ⟨hnumber, hoperator⟩ := (classify_eq_other_iff hc).mp hother
    rw [if_pos hother, hnumber, hoperator]
    rfl
  · have hbarrier : (isNumberChar c || isOperatorChar c) = true := by
      cases hnumber : isNumberChar c with
      | true => rfl
      | false =>
        cases hoperator : isOperatorChar c with
        | true => rfl
        | false => exact absurd ((classify_eq_other_iff hc).mpr ⟨hnumber, hoperator⟩) hother
    rw [if_neg hother, if_pos hbarrier]

/-- An interpretation writes the image of each piece, where the end does with the letters of a run
what `atEnd` does with its text. -/
theorem interpret_cut {finish : List Letter → List Char} {atEnd : List Char → List Char}
    (hnil : finish [] = [])
    (hfinish : ∀ run letters, Letter.ofChars? run = some letters → finish letters = atEnd run)
    (h : IsCut pieces text) : interpret finish [] text = images atEnd pieces := by
  induction h with
  | nil => exact hnil
  | @run run behind pieces hne hletters hmaximal h ih =>
    obtain ⟨letters, hrun⟩ := Numeral.exists_letters hletters
    rw [interpret_letters_append hrun, List.nil_append, images, h.join_eq, ← ih]
    cases behind with
    | nil =>
      rw [interpret_nil, interpret_nil, hnil, List.append_nil]
      exact hfinish run letters hrun
    | cons c behind =>
      have hc : isLetterChar c = false := hmaximal c rfl
      rw [interpret_interruption hc, interpret_interruption hc, interrupt_nil, List.nil_append,
        interrupt_eq_image hrun hc atEnd]
      rfl
  | @other c behind pieces hc h ih =>
    rw [interpret_interruption hc, interrupt_nil, ih]
    rfl

/-- An interpretation substitutes maximal runs. A text is cut in one way into maximal runs of
letters and single other characters; what is resolved are the pieces with each run settled that a
number, an operator or the end follows, and with the other runs in capitals. What is being typed
differs in a run at the end, which is in capitals. -/
theorem interpretation_by_pieces (text : List Char) :
    ∃ pieces, IsCut pieces text ∧ (∀ others, IsCut others text → others = pieces) ∧
      resolve text = images settled pieces ∧ refresh text = images Text.upper pieces := by
  obtain ⟨pieces, h⟩ := exists_isCut text
  refine ⟨pieces, h, fun _ hothers => h.unique hothers, ?_, ?_⟩
  · exact interpret_cut rfl (fun _ _ hrun => settle_eq_settled hrun) h
  · exact interpret_cut rfl (fun _ _ hrun => (Numeral.upper_of_letters hrun).symm) h

/-- A numeral in front of an operator, a run that is none, and numerals in front of another
character and at the end. -/
example : resolve "xiv+VV-iv$IX".toList = "14+VV-IV$9".toList := by
  decide

end RomanCalc.Keypad
