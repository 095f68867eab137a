import RomanCalc.Proofs.Keypad.Typing
import RomanCalc.Proofs.Text.Ending

/-!
# The end of a display

What the queries on a display say of its end. The run of letters at the end of a refreshed display
is the run of the text in capitals (`trailingRun_refresh`), and a resolved display ends in a run
exactly where the text ends in one that is no numeral (`trailingRun_resolve`), which is what the
flag for incomplete displays tells (`isIncomplete_iff_resolve`).

What is being typed is followed character by character, and a character that is no part of an
expression is passed over (`Pending.ofKind_next`). So it is the letters or the number that end the
text without such characters (`ofKind_pending`), and differs from what ends the text itself exactly
where some of them stand behind a token (`pending_by_token`).
-/

namespace RomanCalc.Keypad

/-! ## The run at the end -/

/-- A text is one that ends in no letter, with a run of letters behind it. -/
theorem exists_run (text : List Char) :
    ∃ before run, Letter.ofChars? (Numeral.trailingRun text) = some run ∧
      text = before ++ Numeral.trailingRun text ∧
      ∀ c, before.getLast? = some c → isLetterChar c = false := by
  obtain ⟨before, hsplit, hlast⟩ := Numeral.exists_trailingRun text
  obtain ⟨run, hrun⟩ := Numeral.exists_letters
    fun c (hc : c ∈ Numeral.trailingRun text) => Numeral.isLetterChar_of_mem_trailingRun hc
  exact ⟨before, run, hrun, hsplit, hlast⟩

/-- The run at the end of a display that is being typed stays, in capitals. -/
theorem trailingRun_refresh (text : List Char) :
    Numeral.trailingRun (refresh text) = Text.upper (Numeral.trailingRun text) := by
  obtain ⟨before, run, hrun, hsplit, hlast⟩ := exists_run text
  have hends : EndsIn (refresh text) (refresh before) run := by
    have hends := endsIn_refresh hlast hrun
    rwa [← hsplit] at hends
  rw [hends.trailingRun_eq, Numeral.upper_of_letters hrun]

/-- The run at the end of a resolved display: none where it was a numeral, and otherwise the run in
capitals. -/
theorem trailingRun_resolve (text : List Char) :
    Numeral.trailingRun (resolve text) =
      if Numeral.isNumeral (Numeral.trailingRun text) then []
      else Text.upper (Numeral.trailingRun text) := by
  obtain ⟨before, run, hrun, hsplit, hlast⟩ := exists_run text
  have hresolve : resolve text = refresh before ++ settle run := by
    rw [hsplit, resolve, interpret_append hlast, interpret_letters hrun]
  rw [hresolve, Numeral.isNumeral_of_letters hrun, Numeral.upper_of_letters hrun]
  cases hformed : Numeral.isWellFormed run with
  | false =>
    rw [settle_of_not_wellFormed hformed]
    exact Numeral.trailingRun_append (getLast?_refresh hlast) fun _ =>
      Numeral.isLetterChar_of_mem_spell
  | true =>
    refine Numeral.trailingRun_eq_nil fun c hc => ?_
    have hdigits : settle run ≠ [] := by
      rw [settle_of_wellFormed hformed]
      exact Nat.toDigits_ne_nil
    rw [List.getLast?_append_of_ne_nil _ hdigits] at hc
    exact isLetterChar_of_mem_settle hformed c (List.mem_of_getLast? hc)

/-- A display is flagged as incomplete exactly if it ends in a letter once it is resolved, and the
run at the end of a refreshed display is that of the text in capitals. -/
theorem isIncomplete_iff_resolve (text : List Char) :
    (isIncomplete text = true ↔
        ∃ c, (resolve text).getLast? = some c ∧ isLetterChar c = true) ∧
      Numeral.trailingRun (refresh text) = Text.upper (Numeral.trailingRun text) := by
  refine ⟨?_, trailingRun_refresh text⟩
  rw [← Numeral.trailingRun_ne_nil_iff, trailingRun_resolve, isIncomplete]
  cases Numeral.isNumeral (Numeral.trailingRun text) with
  | true => simp
  | false => simp [Text.upper_eq_nil_iff]


/-! ## The token at the end -/

/-- What is written in more than one character. -/
inductive TokenKind
  | letters
  | number

namespace TokenKind

/-- Whether a character belongs to a token. -/
def holds : TokenKind → Char → Bool
  | letters => isLetterChar
  | number => isNumberChar

/-- A token as it is shown: letters are in capitals. -/
def shown : TokenKind → List Char → List Char
  | letters => Text.upper
  | number => id

theorem shown_append (kind : TokenKind) (s t : List Char) :
    kind.shown (s ++ t) = kind.shown s ++ kind.shown t := by
  cases kind with
  | letters => exact Text.upper_append s t
  | number => rfl

theorem shown_eq_nil_iff (kind : TokenKind) {s : List Char} : kind.shown s = [] ↔ s = [] := by
  cases kind with
  | letters => exact Text.upper_eq_nil_iff
  | number => exact Iff.rfl

end TokenKind

/-- The token at the end of a text, as it is shown: the longest run of letters where the text ends in
a letter, and the longest row of digits and points where it ends in one of those. -/
def tokenAtEnd (text : List Char) : List Char :=
  match text.getLast? with
  | none => []
  | some c =>
    if isLetterChar c then Text.upper (Numeral.trailingRun text)
    else if isNumberChar c then text.rtakeWhile isNumberChar
    else []

/-- A text does not end in tokens of both kinds. -/
theorem tokenAtEnd_eq (text : List Char) :
    tokenAtEnd text = TokenKind.letters.shown (text.rtakeWhile TokenKind.letters.holds) ++
      TokenKind.number.shown (text.rtakeWhile TokenKind.number.holds) := by
  obtain rfl | ⟨front, c, rfl⟩ := text.eq_nil_or_concat'
  · rfl
  · have hrun : (front ++ [c]).rtakeWhile isLetterChar = Numeral.trailingRun (front ++ [c]) := rfl
    rw [tokenAtEnd, List.getLast?_concat]
    simp only [TokenKind.holds, TokenKind.shown, id, hrun]
    cases hletter : isLetterChar c with
    | true =>
      have hnumber : isNumberChar c = false := by
        rw [Bool.eq_false_iff]
        intro hnumber
        rw [isLetterChar_of_isNumberChar hnumber] at hletter
        cases hletter
      rw [List.rtakeWhile_concat_neg _ _ _ (by simp [hnumber])]
      simp
    | false =>
      rw [Numeral.trailingRun_eq_nil (by simpa using hletter)]
      cases hnumber : isNumberChar c with
      | true => simp
      | false => simp [hnumber]

/-! ## What is being typed -/

/-- A character that is no part of an expression. -/
def isStray (c : Char) : Bool :=
  classify c = .other

/-- A text without the characters that are no part of an expression. -/
def withoutStrays (text : List Char) : List Char :=
  text.filter fun c => !isStray c

/-- What is being typed, if it is of a kind. -/
def Pending.ofKind : TokenKind → Pending → List Char
  | .letters, letters run => Letter.spell run
  | .number, number digits => digits
  | _, _ => []

theorem Pending.chars_eq (pending : Pending) :
    pending.chars = pending.ofKind .letters ++ pending.ofKind .number := by
  cases pending with
  | nothing => rfl
  | letters run => simp [chars, ofKind]
  | number digits => rfl

theorem classify_eq_number_iff {c : Char} : classify c = .number ↔ isNumberChar c = true := by
  cases hl : Letter.ofChar? c with
  | some l => simp [classify_eq_letter_iff.mpr hl, isNumberChar_of_letter hl]
  | none =>
    unfold classify
    rw [hl]
    cases isNumberChar c <;> cases isOperatorChar c <;> simp

/-- Only letters and the characters of numbers belong to tokens. -/
theorem holds_eq_false {c : Char} (hletter : ∀ l, classify c ≠ .letter l)
    (hnumber : classify c ≠ .number) (kind : TokenKind) : kind.holds c = false := by
  rw [Bool.eq_false_iff]
  cases kind with
  | letters =>
    intro h
    obtain ⟨l, hl⟩ := Option.isSome_iff_exists.mp h
    exact hletter l (classify_eq_letter_iff.mpr hl)
  | number => exact fun h => hnumber (classify_eq_number_iff.mpr h)

theorem holds_of_isStray {c : Char} (h : isStray c = true) (kind : TokenKind) :
    kind.holds c = false := by
  have hother : classify c = .other := of_decide_eq_true h
  exact holds_eq_false (by simp [hother]) (by simp [hother]) kind

theorem isStray_of_holds {kind : TokenKind} {c : Char} (h : kind.holds c = true) :
    isStray c = false := by
  rw [Bool.eq_false_iff]
  intro hstray
  rw [holds_of_isStray hstray] at h
  cases h

/-- A character makes the token of its kind longer, a stray one interrupts nothing, and any other
one ends the token. -/
theorem Pending.ofKind_next (pending : Pending) (kind : TokenKind) (c : Char) :
    (pending.next c).ofKind kind =
      if kind.holds c then pending.ofKind kind ++ kind.shown [c]
      else if isStray c then pending.ofKind kind else [] := by
  unfold next
  cases hc : classify c with
  | letter l =>
    have hl : Letter.ofChar? c = some l := classify_eq_letter_iff.mp hc
    have hshown : Text.upper [c] = [l.char] := by
      rw [Text.upper_cons, Letter.upperChar_of_ofChar? hl]
      rfl
    cases kind <;> cases pending <;>
      simp [ofKind, TokenKind.holds, TokenKind.shown, isStray, hc, isLetterChar, hl,
        isNumberChar_of_letter hl, hshown, Letter.spell]
  | number =>
    have hnumber : isNumberChar c = true := classify_eq_number_iff.mp hc
    cases kind <;> cases pending <;>
      simp [ofKind, TokenKind.holds, TokenKind.shown, isStray, hc, hnumber,
        isLetterChar_of_isNumberChar hnumber]
  | operator =>
    have hholds : kind.holds c = false := holds_eq_false (by simp [hc]) (by simp [hc]) kind
    cases kind <;> simp [ofKind, isStray, hc, hholds]
  | other =>
    have hstray : isStray c = true := by simp [isStray, hc]
    simp [hstray, holds_of_isStray hstray kind]

theorem pending_concat (display : List Char) (c : Char) :
    pending (display ++ [c]) = (pending display).next c := by
  rw [pending, List.foldl_append]
  rfl

/-- What is being typed is the token at the end once the stray characters are gone. -/
theorem ofKind_pending (kind : TokenKind) (text : List Char) :
    (pending text).ofKind kind = kind.shown ((withoutStrays text).rtakeWhile kind.holds) := by
  induction text using List.reverseRecOn with
  | nil => cases kind <;> rfl
  | append_singleton front c ih =>
    rw [pending_concat, Pending.ofKind_next, ih]
    cases hstray : isStray c with
    | true =>
      have hkept : withoutStrays (front ++ [c]) = withoutStrays front := by
        simp [withoutStrays, hstray]
      simp [hkept, holds_of_isStray hstray kind]
    | false =>
      have hkept : withoutStrays (front ++ [c]) = withoutStrays front ++ [c] := by
        simp [withoutStrays, hstray]
      rw [hkept, List.rtakeWhile_concat, apply_ite kind.shown, kind.shown_append]
      have hnothing : kind.shown [] = [] := kind.shown_eq_nil_iff.mpr rfl
      simp [hnothing]

/-- A token at the end of a text is interrupted: stray characters stand behind one of its
characters, and nothing but more of the token behind them. -/
def Interrupted (text : List Char) : Prop :=
  ∃ kind : TokenKind, Text.Interrupted kind.holds isStray text

theorem shown_withoutStrays (kind : TokenKind) (text : List Char) :
    ∃ more, kind.shown ((withoutStrays text).rtakeWhile kind.holds) =
        more ++ kind.shown (text.rtakeWhile kind.holds) ∧
      (more = [] ↔ ¬Text.Interrupted kind.holds isStray text) := by
  have hkind : ∀ c, kind.holds c = true → isStray c = false := fun _ => isStray_of_holds
  obtain ⟨more, hrow, hmore⟩ := Text.rtakeWhile_filter hkind text
  refine ⟨kind.shown more, ?_, ?_⟩
  · rw [withoutStrays, hrow, kind.shown_append]
  · rw [kind.shown_eq_nil_iff, hmore]

/-- What is being typed is the token that ends the text without its stray characters, and it is the
token that ends the text itself exactly if that one is not interrupted. -/
theorem pending_by_token (text : List Char) :
    (pending text).chars = tokenAtEnd (withoutStrays text) ∧
      ((pending text).chars = tokenAtEnd text ↔ ¬Interrupted text) := by
  have hchars : (pending text).chars = tokenAtEnd (withoutStrays text) := by
    rw [Pending.chars_eq, ofKind_pending, ofKind_pending, tokenAtEnd_eq]
  obtain ⟨letters, hletters, hletters_nil⟩ := shown_withoutStrays .letters text
  obtain ⟨number, hnumber, hnumber_nil⟩ := shown_withoutStrays .number text
  have hwhole : ¬Interrupted text ↔ letters = [] ∧ number = [] := by
    rw [hletters_nil, hnumber_nil, Interrupted, not_exists]
    exact ⟨fun h => ⟨h .letters, h .number⟩, fun h kind => by cases kind <;> simp [h]⟩
  refine ⟨hchars, ?_⟩
  rw [hwhole, hchars, tokenAtEnd_eq, tokenAtEnd_eq, hletters, hnumber]
  constructor
  · intro h
    have hlength := congrArg List.length h
    simp only [List.length_append] at hlength
    rw [← List.length_eq_zero_iff, ← List.length_eq_zero_iff]
    omega
  · rintro ⟨rfl, rfl⟩
    rfl

/-- A dollar sign ends the text or its run, but not what is being typed. -/
theorem pending_interrupted :
    (pending "X$".toList).chars = "X".toList ∧ tokenAtEnd "X$".toList = [] ∧
      (pending "X$I".toList).chars = "XI".toList ∧ tokenAtEnd "X$I".toList = "I".toList := by
  decide +kernel

end RomanCalc.Keypad
