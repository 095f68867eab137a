import RomanCalc.Proofs.Keypad.Interpretation
import RomanCalc.Proofs.Numeral.Letters

/-!
# Runs of letters

What an interpretation makes of a run of letters depends on what stands behind the run only. A
run that cannot be made longer (`MaximalRun`) appears in the resolved text as its value or as its
capitals (`resolve_maximalRun`); where no capitals are left, it was a numeral before a number, an
operator or the end (`isNumeral_of_maximalRun`). Operators and characters that are no part of an
expression divide a display into two that are interpreted by themselves
(`interpretation_at_barriers`).
-/

namespace RomanCalc.Keypad

variable {finish : List Letter → List Char} {run : List Letter}

theorem interpret_letters_append {s : List Char} {letters : List Letter}
    (h : Letter.ofChars? s = some letters) (t : List Char) :
    interpret finish run (s ++ t) = interpret finish (run ++ letters) t := by
  induction s generalizing run letters with
  | nil =>
    cases h
    simp
  | cons c s ih =>
    obtain ⟨l, more, hl, hmore, rfl⟩ := Numeral.ofChars?_cons_eq_some_iff.mp h
    rw [List.cons_append, interpret_letter hl, ih hmore, List.append_assoc, List.singleton_append]

theorem interpret_letters {s : List Char} {letters : List Letter}
    (h : Letter.ofChars? s = some letters) : interpret finish [] s = finish letters := by
  have happend : interpret finish [] (s ++ []) = interpret finish ([] ++ letters) [] :=
    interpret_letters_append h []
  rwa [List.append_nil, List.nil_append, interpret_nil] at happend

theorem interrupt_operator (op : Operator) : interrupt op.char = settle := by
  unfold interrupt
  rw [if_neg]
  cases op <;> decide

theorem interrupt_other {x : Char} (hletter : isLetterChar x = false)
    (hnumber : isNumberChar x = false) (hoperator : isOperatorChar x = false) :
    interrupt x = Letter.spell :=
  if_pos ((classify_eq_other_iff hletter).mpr ⟨hnumber, hoperator⟩)

/-- An operator divides a display into two that are interpreted by themselves, the first of them
ready to be evaluated. -/
theorem interpret_append_operator (s : List Char) (op : Operator) (t : List Char) :
    interpret finish [] (s ++ op.char :: t) = resolve s ++ op.char :: interpret finish [] t := by
  rw [interpret_append_cons (isLetterChar_operator op), interrupt_operator]
  rfl

theorem resolve_append_operator (s : List Char) (op : Operator) (t : List Char) :
    resolve (s ++ op.char :: t) = resolve s ++ op.char :: resolve t :=
  interpret_append_operator s op t

/-- A character that is no part of an expression divides a display as well, but the first of the
two is as it is while it is being typed. -/
theorem interpret_append_other {x : Char} (hletter : isLetterChar x = false)
    (hnumber : isNumberChar x = false) (hoperator : isOperatorChar x = false) (s t : List Char) :
    interpret finish [] (s ++ x :: t) = refresh s ++ x :: interpret finish [] t := by
  rw [interpret_append_cons hletter, interrupt_other hletter hnumber hoperator]
  rfl

/-- No interpretation reads across an operator or a character that is no part of an expression.
What stands before an operator is resolved, what stands before another such character is only
refreshed, and what stands behind is interpreted as if it were the whole display. -/
theorem interpretation_at_barriers (a b : List Char) :
    (∀ c, isOperatorChar c = true →
      resolve (a ++ c :: b) = resolve a ++ c :: resolve b ∧
        refresh (a ++ c :: b) = resolve a ++ c :: refresh b) ∧
      ∀ x, isLetterChar x = false → isNumberChar x = false → isOperatorChar x = false →
        resolve (a ++ x :: b) = refresh a ++ x :: resolve b ∧
          refresh (a ++ x :: b) = refresh a ++ x :: refresh b := by
  refine ⟨?_, ?_⟩
  · intro c hc
    obtain ⟨op, hop⟩ := Option.isSome_iff_exists.mp hc
    obtain rfl := Operator.ofChar?_eq_some_iff.mp hop
    exact ⟨interpret_append_operator a op b, interpret_append_operator a op b⟩
  · intro x hletter hnumber hoperator
    exact ⟨interpret_append_other hletter hnumber hoperator a b,
      interpret_append_other hletter hnumber hoperator a b⟩

/-- A run of letters in a text that cannot be made longer, with what stands before it and behind
it. -/
structure MaximalRun (text before run after : List Char) : Prop where
  split : text = before ++ run ++ after
  nonempty : run ≠ []
  letters : ∀ c ∈ run, isLetterChar c = true
  left : ∀ c, before.getLast? = some c → isLetterChar c = false
  right : ∀ c, after.head? = some c → isLetterChar c = false

/-- What an interpretation makes of a run that has a text behind it. -/
def settleBefore (after : List Char) : List Letter → List Char :=
  match after with
  | [] => settle
  | c :: _ => interrupt c

/-- Behind a text that ends in no letter, another is interpreted by itself. -/
theorem exists_interpret_append {before : List Char}
    (h : ∀ c, before.getLast? = some c → isLetterChar c = false) :
    ∃ out, ∀ finish t, interpret finish [] (before ++ t) = out ++ interpret finish [] t := by
  cases hlast : before.getLast? with
  | none =>
    rw [List.getLast?_eq_none_iff.mp hlast]
    exact ⟨[], fun _ _ => rfl⟩
  | some c =>
    obtain ⟨s, rfl⟩ := List.getLast?_eq_some_iff.mp hlast
    refine ⟨interpret (interrupt c) [] s ++ [c], fun finish t => ?_⟩
    rw [List.append_assoc, List.singleton_append, interpret_append_cons (h c hlast)]
    simp

theorem resolve_maximalRun {text before run after : List Char} {letters : List Letter}
    (h : MaximalRun text before run after) (hletters : Letter.ofChars? run = some letters) :
    ∃ out out', resolve text = out ++ settleBefore after letters ++ out' := by
  obtain ⟨hsplit, -, -, hleft, hright⟩ := h
  obtain ⟨out, hout⟩ := exists_interpret_append hleft
  unfold resolve
  rw [hsplit, List.append_assoc, hout, interpret_letters_append hletters, List.nil_append]
  cases after with
  | nil => exact ⟨out, [], by simp [settleBefore]⟩
  | cons c after =>
    rw [interpret_interruption (hright c rfl)]
    exact ⟨out, c :: interpret settle [] after, by simp [settleBefore]⟩

/-- What is made of a run that is no numeral, or that a character outside of expressions follows,
are its capitals. -/
theorem settleBefore_eq_spell {after : List Char} {letters : List Letter}
    (h : Numeral.isWellFormed letters = false ∨ ∃ c, after.head? = some c ∧ classify c = .other) :
    settleBefore after letters = Letter.spell letters := by
  cases after with
  | nil =>
    rcases h with h | ⟨c, hc, -⟩
    · exact settle_of_not_wellFormed h
    · cases hc
  | cons c after =>
    change interrupt c letters = _
    unfold interrupt
    rcases h with h | ⟨d, hd, hother⟩
    · split
      · rfl
      · exact settle_of_not_wellFormed h
    · cases hd
      rw [if_pos hother]

/-- Where no capitals of letters are left in the resolved text, every maximal run was a numeral
with a digit, a point, an operator or nothing behind it. -/
theorem isNumeral_of_maximalRun {text before run after : List Char}
    (h : MaximalRun text before run after) (hfree : ∀ l : Letter, l.char ∉ resolve text) :
    Numeral.isNumeral run = true ∧
      ∀ c, after.head? = some c → isNumberChar c = true ∨ isOperatorChar c = true := by
  obtain ⟨letters, hletters⟩ := Numeral.exists_letters h.letters
  obtain ⟨out, out', hresolve⟩ := resolve_maximalRun h hletters
  -- a run that is kept leaves the capital of its first letter behind
  have hkept : settleBefore after letters ≠ Letter.spell letters := by
    intro hspell
    cases letters with
    | nil =>
      obtain ⟨c, s, rfl⟩ := List.exists_cons_of_ne_nil h.nonempty
      obtain ⟨l, more, -, -, hcons⟩ := Numeral.ofChars?_cons_eq_some_iff.mp hletters
      cases hcons
    | cons l letters =>
      apply hfree l
      rw [hresolve, hspell]
      simp [Letter.spell]
  rw [Numeral.isNumeral_of_letters hletters]
  constructor
  · cases hformed : Numeral.isWellFormed letters with
    | true => rfl
    | false => exact absurd (settleBefore_eq_spell (.inl hformed)) hkept
  · intro c hc
    have hother : classify c ≠ .other := fun hother =>
      hkept (settleBefore_eq_spell (.inr ⟨c, hc, hother⟩))
    rw [ne_eq, classify_eq_other_iff (h.right c hc)] at hother
    cases hnumber : isNumberChar c with
    | true => exact .inl rfl
    | false =>
      right
      simpa [hnumber] using hother

/-- A character that is no letter is never lost. -/
theorem mem_resolve {text : List Char} {c : Char} (h : c ∈ text)
    (hc : isLetterChar c = false) : c ∈ resolve text := by
  obtain ⟨s, t, rfl⟩ := List.append_of_mem h
  unfold resolve
  rw [interpret_append_cons hc]
  exact List.mem_append_right _ List.mem_cons_self

end RomanCalc.Keypad
