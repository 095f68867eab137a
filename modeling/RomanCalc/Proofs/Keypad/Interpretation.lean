import RomanCalc.Keypad.Display

/-!
# Interpreting a display again

A display is interpreted after every key, so what one interpretation has written is read by the
next. A text that was interpreted while it was being typed reads like the text itself, whatever
is typed behind it (`interpret_interpret_append`), and a text that is ready to be evaluated is
not changed any more (`interpret_resolved`). Both rest on what a character that is no letter
does to the run before it (`interrupt`).
-/

namespace RomanCalc.Keypad

theorem classify_eq_letter_iff {c : Char} {l : Letter} :
    classify c = .letter l ↔ Letter.ofChar? c = some l := by
  unfold classify
  cases h : Letter.ofChar? c with
  | some k => simp
  | none =>
    simp only [reduceCtorEq, iff_false]
    split
    · simp
    · split <;> simp

theorem isLetterChar_eq_false_iff {c : Char} :
    isLetterChar c = false ↔ Letter.ofChar? c = none := by
  simp [isLetterChar]

theorem isNumberChar_of_letter {c : Char} {l : Letter} (h : Letter.ofChar? c = some l) :
    isNumberChar c = false := by
  unfold Letter.ofChar? at h
  split at h <;> simp at h <;> subst h <;> decide

/-- Neither digits nor the point write letters. -/
theorem isLetterChar_of_isNumberChar {c : Char} (h : isNumberChar c = true) :
    isLetterChar c = false := by
  rw [isLetterChar_eq_false_iff]
  cases hl : Letter.ofChar? c with
  | none => rfl
  | some l =>
    rw [isNumberChar_of_letter hl] at h
    cases h

theorem isLetterChar_operator (op : Operator) : isLetterChar op.char = false := by
  cases op <;> decide

/-- A character of a number or an operator is what settles a run. -/
theorem classify_eq_other_iff {c : Char} (h : isLetterChar c = false) :
    classify c = .other ↔ isNumberChar c = false ∧ isOperatorChar c = false := by
  rw [isLetterChar_eq_false_iff] at h
  unfold classify
  rw [h]
  cases isNumberChar c <;> cases isOperatorChar c <;> simp

@[simp] theorem settle_nil : settle [] = [] := rfl

theorem settle_of_not_wellFormed {run : List Letter} (h : Numeral.isWellFormed run = false) :
    settle run = Letter.spell run := by
  simp [settle, h]

theorem settle_of_wellFormed {run : List Letter} (h : Numeral.isWellFormed run = true) :
    settle run = Nat.toDigits 10 (Numeral.lettersValue run) := by
  simp [settle, h]

theorem isLetterChar_of_mem_settle {run : List Letter} (h : Numeral.isWellFormed run = true) :
    ∀ c ∈ settle run, isLetterChar c = false := by
  intro c hc
  rw [settle_of_wellFormed h] at hc
  have hdigit : c.isDigit = true := Nat.isDigit_of_mem_toDigits (by decide) (by decide) hc
  exact isLetterChar_of_isNumberChar (by simp [isNumberChar, hdigit])

theorem settle_eq_spell_or_digits (run : List Letter) :
    settle run = Letter.spell run ∨ ∀ c ∈ settle run, isLetterChar c = false := by
  cases h : Numeral.isWellFormed run with
  | false => exact .inl (settle_of_not_wellFormed h)
  | true => exact .inr (isLetterChar_of_mem_settle h)

/-- What becomes of a run when a character that is no letter stands behind it. -/
def interrupt (c : Char) : List Letter → List Char :=
  if classify c = .other then Letter.spell else settle

@[simp] theorem interrupt_nil (c : Char) : interrupt c [] = [] := by
  unfold interrupt
  split <;> rfl

theorem interrupt_eq_spell_or_digits (c : Char) (run : List Letter) :
    interrupt c run = Letter.spell run ∨ ∀ d ∈ interrupt c run, isLetterChar d = false := by
  unfold interrupt
  split
  · exact .inl rfl
  · exact settle_eq_spell_or_digits run

variable {finish : List Letter → List Char} {run : List Letter} {c : Char}

@[simp] theorem interpret_nil : interpret finish run [] = finish run := rfl

theorem interpret_letter {l : Letter} (h : Letter.ofChar? c = some l) (rest : List Char) :
    interpret finish run (c :: rest) = interpret finish (run ++ [l]) rest := by
  rw [interpret, classify_eq_letter_iff.mpr h]

theorem interpret_interruption (h : isLetterChar c = false) (rest : List Char) :
    interpret finish run (c :: rest) = interrupt c run ++ c :: interpret finish [] rest := by
  unfold interrupt
  rw [interpret]
  cases hc : classify c with
  | letter l =>
    rw [isLetterChar_eq_false_iff] at h
    rw [classify_eq_letter_iff, h] at hc
    cases hc
  | number => simp
  | operator => simp
  | other => simp

/-- A character that is no letter divides the interpretation: before it the run is interrupted,
and behind it no run is left over. -/
theorem interpret_append_cons (h : isLetterChar c = false) (s t : List Char) :
    interpret finish run (s ++ c :: t) =
      interpret (interrupt c) run s ++ c :: interpret finish [] t := by
  induction s generalizing run with
  | nil => exact interpret_interruption h t
  | cons d s ih =>
    cases hd : Letter.ofChar? d with
    | some l => rw [List.cons_append, interpret_letter hd, interpret_letter hd, ih]
    | none =>
      have hd' : isLetterChar d = false := isLetterChar_eq_false_iff.mpr hd
      rw [List.cons_append, interpret_interruption hd', interpret_interruption hd', ih]
      simp

theorem interpret_spell_append (letters : List Letter) (t : List Char) :
    interpret finish run (Letter.spell letters ++ t) = interpret finish (run ++ letters) t := by
  induction letters generalizing run with
  | nil => simp
  | cons l letters ih =>
    change interpret finish run (l.char :: (Letter.spell letters ++ t)) = _
    rw [interpret_letter (Letter.ofChar?_char l), ih, List.append_assoc, List.singleton_append]

theorem interpret_spell (letters : List Letter) :
    interpret finish [] (Letter.spell letters) = finish letters := by
  have happend : interpret finish [] (Letter.spell letters ++ []) =
      interpret finish ([] ++ letters) [] :=
    interpret_spell_append letters []
  rwa [List.append_nil, List.nil_append, interpret_nil] at happend

theorem interpret_plain_append {s : List Char} (h : ∀ d ∈ s, isLetterChar d = false)
    (t : List Char) : interpret finish [] (s ++ t) = s ++ interpret finish [] t := by
  induction s with
  | nil => rfl
  | cons d s ih =>
    rw [List.forall_mem_cons] at h
    rw [List.cons_append, interpret_interruption h.1, interrupt_nil, ih h.2]
    rfl

theorem interpret_plain {s : List Char} (h : ∀ d ∈ s, isLetterChar d = false) :
    interpret finish [] s = s ++ finish [] := by
  have happend : interpret finish [] (s ++ []) = s ++ interpret finish [] [] :=
    interpret_plain_append h []
  rwa [List.append_nil, interpret_nil] at happend

/-- What was written for an interrupted run is read like the run: digits stay, and a run that
was kept is interrupted by the same character again. -/
theorem interpret_interrupt_append (h : isLetterChar c = false) (t : List Char) :
    interpret finish [] (interrupt c run ++ c :: t) =
      interrupt c run ++ c :: interpret finish [] t := by
  rcases interrupt_eq_spell_or_digits c run with hspell | hdigits
  · rw [hspell, interpret_spell_append, List.nil_append, interpret_interruption h, hspell]
  · rw [interpret_plain_append hdigits, interpret_interruption h, interrupt_nil, List.nil_append]

/-- A text that was interpreted while it was being typed is read like the text itself. The
induction is on the text, and the run before it is what the capitals in front stand for. -/
theorem interpret_interpret_append (s t : List Char) :
    interpret finish [] (interpret Letter.spell run s ++ t) = interpret finish run (s ++ t) := by
  induction s generalizing run with
  | nil => rw [interpret_nil, interpret_spell_append, List.nil_append, List.nil_append]
  | cons c s ih =>
    cases hc : Letter.ofChar? c with
    | some l => rw [interpret_letter hc, ih, List.cons_append, interpret_letter hc]
    | none =>
      have hc' : isLetterChar c = false := isLetterChar_eq_false_iff.mpr hc
      rw [interpret_interruption hc', List.append_assoc, List.cons_append,
        interpret_interrupt_append hc', ih, List.cons_append, interpret_interruption hc']

/-- A text that is ready to be evaluated is not changed by an interpretation that keeps the runs
that are no numerals. -/
theorem interpret_resolved
    (hfinish : ∀ letters, Numeral.isWellFormed letters = false →
      finish letters = Letter.spell letters) (s : List Char) :
    interpret finish [] (interpret settle run s) = interpret settle run s := by
  induction s generalizing run with
  | nil =>
    cases h : Numeral.isWellFormed run with
    | false => rw [interpret_nil, settle_of_not_wellFormed h, interpret_spell, hfinish run h]
    | true =>
      have hnil : finish [] = [] := hfinish [] rfl
      rw [interpret_nil, interpret_plain (isLetterChar_of_mem_settle h), hnil, List.append_nil]
  | cons c s ih =>
    cases hc : Letter.ofChar? c with
    | some l => rw [interpret_letter hc, ih]
    | none =>
      have hc' : isLetterChar c = false := isLetterChar_eq_false_iff.mpr hc
      rw [interpret_interruption hc', interpret_interrupt_append hc', ih]

/-- Typing a text behind a display, and typing it behind what the display was typed from, lead to
the same display. -/
theorem refresh_refresh_append (s t : List Char) : refresh (refresh s ++ t) = refresh (s ++ t) :=
  interpret_interpret_append s t

/-- Keys typed one by one lead to the display of all of them at once. The first key is needed,
since a display that nobody has typed on need not be a refreshed one. -/
theorem foldl_press (display key : List Char) (keys : List (List Char)) :
    (key :: keys).foldl press display =
      refresh (display ++ (key :: keys).flatMap Text.upper) := by
  induction keys generalizing display key with
  | nil => simp [press]
  | cons next keys ih =>
    rw [List.foldl_cons, ih, press, refresh_refresh_append, List.append_assoc]
    rfl

/-- Typing key by key is interpreting the whole text once: a display may be refreshed at any
point, and a row of keys leads to the refreshed display of their capitals. -/
theorem foldl_press_eq_refresh :
    (∀ s t, refresh (refresh s ++ t) = refresh (s ++ t)) ∧
      ∀ display key keys,
        (key :: keys).foldl press display =
          refresh (display ++ (key :: keys).flatMap Text.upper) :=
  ⟨refresh_refresh_append, foldl_press⟩

/-- The display that is typed and the one that is evaluated agree: what is typed may be refreshed
before it is resolved, and what is resolved is stable under both. -/
theorem resolve_refresh_stable :
    (∀ s t, resolve (refresh s ++ t) = resolve (s ++ t)) ∧
      (∀ s, refresh (resolve s) = resolve s) ∧
      ∀ s, resolve (resolve s) = resolve s := by
  refine ⟨?_, ?_, ?_⟩
  · intro s t
    exact interpret_interpret_append s t
  · intro s
    exact interpret_resolved (fun _ _ => rfl) s
  · intro s
    exact interpret_resolved (fun _ h => settle_of_not_wellFormed h) s

end RomanCalc.Keypad
