import RomanCalc.Proofs.Keypad.Runs
import RomanCalc.Proofs.Numeral.Extension

/-!
# Typing numerals

A display that was refreshed is a text that no key changes any more, with the run that is being typed
behind it (`EndsIn`, `endsIn_refresh`). A letter makes the run longer and an operator settles it
(`EndsIn.letter`, `EndsIn.operator`); since the beginnings of a numeral are numerals, the keypad takes
each of its letters, and the operator behind it turns it into its value (`numeral_typed`).
-/

namespace RomanCalc.Keypad

/-- A display is a text that is read by itself and stays as it is, and a run of letters in capitals
that is being typed behind it. -/
structure EndsIn (display before : List Char) (run : List Letter) : Prop where
  split : display = before ++ Letter.spell run
  last : ∀ c, before.getLast? = some c → isLetterChar c = false
  refreshed : refresh before = before

theorem refresh_refresh (s : List Char) : refresh (refresh s) = refresh s := by
  simpa using refresh_refresh_append s []

/-- What stands before a text that is interpreted by itself is only refreshed. -/
theorem interpret_append {before : List Char}
    (h : ∀ c, before.getLast? = some c → isLetterChar c = false)
    (finish : List Letter → List Char) (t : List Char) :
    interpret finish [] (before ++ t) = refresh before ++ interpret finish [] t := by
  obtain ⟨out, hout⟩ := exists_interpret_append h
  have hbefore : refresh before = out := by
    simpa [refresh] using hout Letter.spell []
  rw [hbefore]
  exact hout finish t

theorem refresh_append {before : List Char}
    (h : ∀ c, before.getLast? = some c → isLetterChar c = false) (t : List Char) :
    refresh (before ++ t) = refresh before ++ refresh t :=
  interpret_append h Letter.spell t

theorem getLast?_refresh {before : List Char}
    (h : ∀ c, before.getLast? = some c → isLetterChar c = false) :
    ∀ c, (refresh before).getLast? = some c → isLetterChar c = false := by
  intro c hc
  cases hlast : before.getLast? with
  | none =>
    rw [List.getLast?_eq_none_iff.mp hlast] at hc
    cases hc
  | some d =>
    obtain ⟨s, rfl⟩ := List.getLast?_eq_some_iff.mp hlast
    rw [refresh, interpret_append_cons (h d hlast), interpret_nil, Letter.spell_nil,
      List.getLast?_concat] at hc
    cases hc
    exact h c hlast

/-- Letters behind a text that ends in no letter are the run that is being typed. -/
theorem endsIn_refresh {before s : List Char} {run : List Letter}
    (hbefore : ∀ c, before.getLast? = some c → isLetterChar c = false)
    (hs : Letter.ofChars? s = some run) :
    EndsIn (refresh (before ++ s)) (refresh before) run := by
  refine ⟨?_, getLast?_refresh hbefore, refresh_refresh before⟩
  rw [refresh_append hbefore, refresh, refresh, interpret_letters hs]

namespace EndsIn

variable {display before : List Char} {run : List Letter}

theorem trailingRun_eq (h : EndsIn display before run) :
    Numeral.trailingRun display = Letter.spell run := by
  rw [h.split]
  exact Numeral.trailingRun_append h.last fun _ => Numeral.isLetterChar_of_mem_spell

/-- What a text behind the display leads to. -/
theorem refresh_append (h : EndsIn display before run) (t : List Char) :
    refresh (display ++ t) = before ++ interpret Letter.spell run t := by
  rw [h.split, List.append_assoc, Keypad.refresh_append h.last, h.refreshed]
  congr 1
  exact interpret_spell_append run t

/-- A letter makes the run longer. -/
theorem letter (h : EndsIn display before run) {c : Char} {l : Letter}
    (hc : Letter.ofChar? c = some l) : EndsIn (press display [c]) before (run ++ [l]) := by
  refine ⟨?_, h.last, h.refreshed⟩
  rw [press, Text.upper_cons, Letter.upperChar_of_ofChar? hc, h.refresh_append]
  simp [interpret_letter (Letter.ofChar?_char l)]

/-- An operator settles the run. -/
theorem operator (h : EndsIn display before run) (op : Operator) :
    press display [op.char] = before ++ settle run ++ [op.char] := by
  have hupper : Text.upper [op.char] = [op.char] := by
    cases op <;> rfl
  rw [press, hupper, h.refresh_append, interpret_interruption (isLetterChar_operator op),
    interrupt_operator]
  simp

end EndsIn

/-- The display after keys that are typed one at a time. -/
def typeKeys (display keys : List Char) : List Char :=
  keys.foldl (fun display key => press display [key]) display

/-- Letters typed one at a time make the run longer by all of them. -/
theorem EndsIn.typeKeys {display before : List Char} {run : List Letter}
    (h : EndsIn display before run) {keys : List Char} {letters : List Letter}
    (hkeys : Letter.ofChars? keys = some letters) :
    EndsIn (typeKeys display keys) before (run ++ letters) := by
  induction keys generalizing display run letters with
  | nil =>
    cases hkeys
    simpa [Keypad.typeKeys] using h
  | cons c keys ih =>
    obtain ⟨l, more, hl, hmore, rfl⟩ := Numeral.ofChars?_cons_eq_some_iff.mp hkeys
    rw [← List.singleton_append (l := more), ← List.append_assoc]
    exact ih (h.letter hl) hmore

/-- Numerals can be typed and are read. Behind a display that ends in no letter, the keypad takes
every letter of a numeral, in either case, and the display becomes longer by its capital; an operator
then leaves the value of the numeral in place of the letters. -/
theorem numeral_typed {t s : List Char}
    (hend : ∀ c, (refresh t).getLast? = some c → isLetterChar c = false)
    (hletters : ∀ c ∈ s, isLetterChar c = true) (hnumeral : Numeral.isNumeral s = true) :
    ∃ n, Numeral.value? s = .ok (some n) ∧
      (∀ front key back, s = front ++ key :: back →
        Numeral.mayAppend (typeKeys (refresh t) front) [key] = true ∧
          press (typeKeys (refresh t) front) [key] = refresh t ++ Text.upper (front ++ [key])) ∧
      typeKeys (refresh t) s = refresh t ++ Text.upper s ∧
      ∀ c, isOperatorChar c = true →
        press (typeKeys (refresh t) s) [c] = refresh t ++ Nat.toDigits 10 n ++ [c] := by
  have hstart : EndsIn (refresh t) (refresh t) [] := ⟨by simp, hend, refresh_refresh t⟩
  obtain ⟨letters, hs⟩ := Numeral.exists_letters hletters
  have hformed : Numeral.isWellFormed letters = true := by
    rwa [Numeral.isNumeral_of_letters hs] at hnumeral
  have htyped : EndsIn (typeKeys (refresh t) s) (refresh t) letters := hstart.typeKeys hs
  refine ⟨Numeral.lettersValue letters, ?_, ?_, ?_, ?_⟩
  · rw [Numeral.value?_of_letters hs, if_pos hformed]
  · rintro front key back rfl
    obtain ⟨run, more, hrun, hmore, rfl⟩ := Numeral.ofChars?_append_eq_some_iff.mp hs
    obtain ⟨l, rest, hl, -, rfl⟩ := Numeral.ofChars?_cons_eq_some_iff.mp hmore
    have hfront : EndsIn (typeKeys (refresh t) front) (refresh t) run := hstart.typeKeys hrun
    have hlonger : Numeral.isWellFormed (run ++ [l]) = true := by
      refine Numeral.isWellFormed_of_prefix hformed ⟨rest, ?_⟩ (by simp)
      simp
    constructor
    · exact (Numeral.mayAppend_iff hfront.trailingRun_eq hl).mpr (.inl hlonger)
    · rw [(hfront.letter hl).split, Text.upper_append, Numeral.upper_of_letters hrun,
        Text.upper_cons, Letter.upperChar_of_ofChar? hl]
      simp [Letter.spell]
  · rw [htyped.split, Numeral.upper_of_letters hs]
  · intro c hc
    obtain ⟨op, hop⟩ := Option.isSome_iff_exists.mp hc
    obtain rfl := Operator.ofChar?_eq_some_iff.mp hop
    rw [htyped.operator op, settle_of_wellFormed hformed]

/-- A numeral in mixed case, with a dotless letter, behind one that was settled: the keypad takes the
letter in the middle of a pair, and the product is of both values. -/
theorem numeral_typed_behind_sum :
    refresh "xiv+".toList = "14+".toList ∧
      Numeral.isNumeral ['c', 'D', 'x', 'l', 'ı', 'V'] = true ∧
      Numeral.mayAppend (typeKeys (refresh "xiv+".toList) ['c', 'D', 'x']) ['l'] = true ∧
      press (typeKeys (refresh "xiv+".toList) ['c', 'D', 'x', 'l', 'ı', 'V']) ['*'] =
        "14+444*".toList := by
  have hdisplay : refresh "xiv+".toList = "14+".toList := by decide
  have hend : ∀ c, (refresh "xiv+".toList).getLast? = some c → isLetterChar c = false := by
    intro c hc
    rw [hdisplay] at hc
    cases hc
    rfl
  have hletters : ∀ c ∈ ['c', 'D', 'x', 'l', 'ı', 'V'], isLetterChar c = true :=
    List.all_eq_true.mp rfl
  have hnumeral : Numeral.isNumeral ['c', 'D', 'x', 'l', 'ı', 'V'] = true := by decide
  obtain ⟨n, hvalue, hsteps, -, hread⟩ := numeral_typed hend hletters hnumeral
  have hn : n = 444 := by
    have hother : Numeral.value? ['c', 'D', 'x', 'l', 'ı', 'V'] = .ok (some 444) := by rfl
    rw [hother] at hvalue
    cases hvalue
    rfl
  refine ⟨hdisplay, hnumeral, (hsteps ['c', 'D', 'x'] 'l' ['ı', 'V'] rfl).1, ?_⟩
  rw [hread '*' rfl, hn, hdisplay]
  rfl

end RomanCalc.Keypad
