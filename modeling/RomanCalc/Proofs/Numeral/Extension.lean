import Mathlib.Data.List.Basic
import RomanCalc.Numeral.Suggestion
import RomanCalc.Proofs.Numeral.Capitals
import RomanCalc.Proofs.Numeral.Letters
import RomanCalc.Proofs.Numeral.Standard
import RomanCalc.Proofs.Text.Ending

/-!
# Extending numerals

Every beginning of a numeral is a numeral (`isWellFormed_of_prefix`): a digit that is cut short is
a smaller digit, and what stands before a digit is a number by itself. So the letters that a keypad
offers behind a text are those that make its capitals a numeral, and those that make them one of
three pairs that no letter can follow (`mem_nextLetters_iff_text`, `not_mem_nextLetters_deadEnd`):
the rule for two letters adds no more than these pairs, and no letter is missing that begins a
longer numeral (`nextLetters_lookahead`). The run at the end of a text grows by the letters that
are appended (`trailingRun_append_letters`).
-/

namespace RomanCalc.Numeral

/-! ## Beginnings of numerals -/

theorem prefix_append_cases {α : Type} {a s t : List α} (h : a <+: s ++ t) :
    a <+: s ∨ ∃ b, a = s ++ b ∧ b <+: t := by
  obtain ⟨rest, h⟩ := h
  rcases List.append_eq_append_iff.mp h with ⟨c, rfl, -⟩ | ⟨c, rfl, rfl⟩
  · exact .inl ⟨c, rfl⟩
  · exact .inr ⟨c, rfl, rest, rfl⟩

/-- A digit that is cut short is a digit. -/
theorem Place.exists_digit_of_prefix {place : Place} {d : Nat} (hd : d < 10) {letters : List Letter}
    (h : letters <+: place.digit d) : ∃ e < 10, letters = place.digit e := by
  unfold Place.digit at h
  split at h
  · simp only [List.prefix_cons_iff, List.prefix_nil] at h
    rcases h with rfl | ⟨_, rfl, rfl | ⟨_, rfl, rfl⟩⟩
    · exact ⟨0, by omega, rfl⟩
    · exact ⟨1, by omega, rfl⟩
    · exact ⟨4, by omega, rfl⟩
  · simp only [List.prefix_cons_iff, List.prefix_nil] at h
    rcases h with rfl | ⟨_, rfl, rfl | ⟨_, rfl, rfl⟩⟩
    · exact ⟨0, by omega, rfl⟩
    · exact ⟨1, by omega, rfl⟩
    · exact ⟨9, by omega, rfl⟩
  · next hfour hnine =>
    have hne : d ≠ 4 ∧ d ≠ 9 := ⟨hfour, hnine⟩
    have hadditive : ∀ fives ≤ 1, ∀ units ≤ 3,
        List.replicate fives place.five ++ List.replicate units place.unit =
          place.digit (5 * fives + units) := by
      intro fives _ units _
      rw [Place.digit_of_mod_le (by omega), show (5 * fives + units) / 5 = fives by omega,
        show (5 * fives + units) % 5 = units by omega]
    rcases prefix_append_cases h with hfives | ⟨more, rfl, hunits⟩
    · obtain ⟨hle, hletters⟩ := List.prefix_replicate_iff.mp hfives
      refine ⟨5 * letters.length + 0, by omega, ?_⟩
      rw [← hadditive _ (by omega) 0 (by omega), ← hletters]
      simp
    · obtain ⟨hle, hmore⟩ := List.prefix_replicate_iff.mp hunits
      refine ⟨5 * (d / 5) + more.length, by omega, ?_⟩
      rw [← hadditive _ (by omega) _ (by omega), ← hmore]

/-- The beginning of a standard form is the standard form of a number: it is cut off behind the
thousands, or within a digit and before all lower ones. -/
theorem exists_standard_of_prefix {n : Nat} (hn : n < 5000) {letters : List Letter}
    (h : letters <+: standard n) : ∃ m < 5000, letters = standard m := by
  rcases prefix_append_cases h with hthousands | ⟨b, rfl, hb⟩
  · obtain ⟨hle, hletters⟩ := List.prefix_replicate_iff.mp hthousands
    refine ⟨1000 * letters.length + 100 * 0 + 10 * 0 + 0, by omega, ?_⟩
    rw [standard_digits (by omega) (by omega) (by omega), ← hletters]
    exact (List.append_nil letters).symm
  rcases prefix_append_cases hb with hhundreds | ⟨c, rfl, hc⟩
  · obtain ⟨e, he, rfl⟩ := Place.exists_digit_of_prefix (by omega) hhundreds
    refine ⟨1000 * (n / 1000) + 100 * e + 10 * 0 + 0, by omega, ?_⟩
    rw [standard_digits he (by omega) (by omega)]
    simp [Place.digit]
  rcases prefix_append_cases hc with htens | ⟨ones, rfl, hones⟩
  · obtain ⟨e, he, rfl⟩ := Place.exists_digit_of_prefix (by omega) htens
    refine ⟨1000 * (n / 1000) + 100 * (n / 100 % 10) + 10 * e + 0, by omega, ?_⟩
    rw [standard_digits (by omega) he (by omega)]
    simp [Place.digit]
  · obtain ⟨e, he, rfl⟩ := Place.exists_digit_of_prefix (by omega) hones
    refine ⟨1000 * (n / 1000) + 100 * (n / 100 % 10) + 10 * (n / 10 % 10) + e, by omega, ?_⟩
    rw [standard_digits (by omega) (by omega) he]

/-- The beginnings of numerals are numerals. -/
theorem isWellFormed_of_prefix {letters beginning : List Letter}
    (h : isWellFormed letters = true) (hbegins : beginning <+: letters) (hne : beginning ≠ []) :
    isWellFormed beginning = true := by
  obtain ⟨n, -, hn, rfl⟩ := exists_standard h
  obtain ⟨m, hm, rfl⟩ := exists_standard_of_prefix hn hbegins
  apply isWellFormed_standard _ hm
  apply Nat.pos_of_ne_zero
  rintro rfl
  exact hne rfl

/-! ## The letters that are offered -/

/-- The pairs that may be typed although no numeral starts with them. -/
def deadEnds : List (List Letter) :=
  [[.V, .V], [.L, .L], [.D, .D]]

theorem isWellFormed_of_mem_deadEnds {run : List Letter} (h : run ∈ deadEnds) :
    isWellFormed run = false := by
  simp only [deadEnds, List.mem_cons, List.not_mem_nil, or_false] at h
  rcases h with rfl | rfl | rfl <;> rfl

theorem upper_spell (letters : List Letter) :
    Text.upper (Letter.spell letters) = Letter.spell letters :=
  upper_of_letters (ofChars?_spell letters)

theorem isNumeral_spell (letters : List Letter) :
    isNumeral (Letter.spell letters) = isWellFormed letters :=
  isNumeral_of_letters (ofChars?_spell letters)

/-- The rule for two letters lets through three pairs that are no numerals. -/
theorem mayGrow_pair (a b : Letter) (h : mayGrow (Letter.spell [a, b]) = true) :
    isWellFormed [a, b] = true ∨ [a, b] ∈ deadEnds := by
  revert h
  cases a <;> cases b <;> decide

theorem isWellFormed_letter (l : Letter) : isWellFormed [l] = true := by
  cases l <;> rfl

theorem mem_descending (l : Letter) : l ∈ Letter.descending := by
  cases l <;> simp [Letter.descending]

theorem nextLetters_sublist (text : List Char) :
    (nextLetters text).Sublist Letter.descending := by
  unfold nextLetters
  split
  · exact List.Sublist.refl _
  · exact List.filter_sublist

/-- Behind a text that is not empty, a letter leaves it able to grow only where it is the second
one. -/
theorem exists_upper_of_mayGrow {text : List Char} {l : Letter} (hne : text ≠ [])
    (h : mayGrow (Text.upper text ++ [l.char]) = true) :
    ∃ a : Letter, Text.upper text = [a.char] := by
  have hl : Text.upper [l.char] = [l.char] := upper_spell [l]
  rw [mayGrow, Text.upper_append, hl] at h
  match hcapitals : Text.upper (Text.upper text), h with
  | [], _ => exact absurd (Text.upper_eq_nil_iff.mp (Text.upper_eq_nil_iff.mp hcapitals)) hne
  | [d], h =>
    cases hd : Letter.ofCapital? d with
    | none => simp [hd] at h
    | some a =>
      rw [Letter.ofCapital?_eq_some_iff.mp hd] at hcapitals
      exact ⟨a, upper_eq_of_upper_upper hcapitals⟩
  | [_, _], h => cases h
  | _ :: _ :: _ :: _, h => cases h

/-- A letter is offered behind a text where it makes its capitals a numeral or a dead end. -/
theorem mem_nextLetters_iff_text {text : List Char} {l : Letter} :
    l ∈ nextLetters text ↔
      isNumeral (Text.upper text ++ [l.char]) = true ∨
        Text.upper text ++ [l.char] ∈ deadEnds.map Letter.spell := by
  by_cases hne : text = []
  · subst hne
    have hoffered : nextLetters [] = Letter.descending := rfl
    have hnumeral : isNumeral [l.char] = true :=
      (isNumeral_spell [l]).trans (isWellFormed_letter l)
    simp [hoffered, mem_descending, hnumeral]
  rw [nextLetters, if_neg (by simpa using hne), List.mem_filter, Bool.or_eq_true]
  constructor
  · rintro ⟨-, hnumeral | hgrows⟩
    · exact .inl hnumeral
    · obtain ⟨a, ha⟩ := exists_upper_of_mayGrow hne hgrows
      have hpair : Text.upper text ++ [l.char] = Letter.spell [a, l] := by
        rw [ha]
        rfl
      rw [hpair] at hgrows ⊢
      rw [isNumeral_spell]
      rcases mayGrow_pair a l hgrows with hformed | hend
      · exact .inl hformed
      · exact .inr (List.mem_map_of_mem hend)
  · rintro (hnumeral | hend)
    · exact ⟨mem_descending l, .inl hnumeral⟩
    · have hgrows : ∀ pair ∈ deadEnds.map Letter.spell, mayGrow pair = true := by decide
      exact ⟨mem_descending l, .inr (hgrows _ hend)⟩

/-- A letter is offered behind a run where it makes a numeral or a dead end. -/
theorem mem_nextLetters_iff_of_letters {text : List Char} {run : List Letter} {l : Letter}
    (h : Letter.ofChars? text = some run) :
    l ∈ nextLetters text ↔ isWellFormed (run ++ [l]) = true ∨ run ++ [l] ∈ deadEnds := by
  have hcandidate : Text.upper text ++ [l.char] = Letter.spell (run ++ [l]) := by
    rw [upper_of_letters h, Letter.spell_append]
    rfl
  rw [mem_nextLetters_iff_text, hcandidate, isNumeral_spell,
    List.mem_map_of_injective fun _ _ => spell_injective]

theorem mem_nextLetters_iff {run : List Letter} {l : Letter} :
    l ∈ nextLetters (Letter.spell run) ↔
      isWellFormed (run ++ [l]) = true ∨ run ++ [l] ∈ deadEnds :=
  mem_nextLetters_iff_of_letters (ofChars?_spell run)

/-- No letter is offered behind a dead end. -/
theorem not_mem_nextLetters_deadEnd {run : List Letter} (h : run ∈ deadEnds) (l : Letter) :
    l ∉ nextLetters (Letter.spell run) := by
  rw [mem_nextLetters_iff]
  rintro (hformed | hend)
  · have hne : run ≠ [] := by
      rintro rfl
      simp [deadEnds] at h
    have hrun := isWellFormed_of_prefix hformed (List.prefix_append run [l]) hne
    rw [isWellFormed_of_mem_deadEnds h] at hrun
    cases hrun
  · simp only [deadEnds, List.mem_cons, List.not_mem_nil, or_false] at h hend
    rcases h with rfl | rfl | rfl <;> simp at hend

/-- A letter with which a text of letters begins a numeral is offered behind it: the beginning is a
numeral itself. -/
theorem mem_nextLetters_of_begins {text numeral : List Char} {run : List Letter} {l : Letter}
    (h : Letter.ofChars? text = some run) (hnumeral : isNumeral numeral = true)
    (hbegins : text ++ [l.char] <+: numeral) : l ∈ nextLetters text := by
  have hbeginning : (text ++ [l.char]).mapM grammarLetter? = some (run ++ [l]) := by
    apply grammarLetters_of_letters
    exact ofChars?_append_eq_some_iff.mpr ⟨run, [l], h, ofChars?_spell [l], rfl⟩
  obtain ⟨rest, rfl⟩ := hbegins
  rw [isNumeral, List.mapM_append, hbeginning] at hnumeral
  rw [mem_nextLetters_iff_of_letters h]
  cases hrest : rest.mapM grammarLetter? with
  | none => simp [hrest] at hnumeral
  | some more =>
    have hformed : isWellFormed (run ++ [l] ++ more) = true := by
      simpa [hrest] using hnumeral
    left
    exact isWellFormed_of_prefix hformed (List.prefix_append _ _) (by simp)

/-- The letters that are offered behind a text, whatever its characters, are those that make its
capitals a numeral or one of three pairs, each once and from the heaviest to the lightest. Behind a
text of letters none is missing with which the text begins a numeral. -/
theorem nextLetters_lookahead (text : List Char) :
    (∀ l : Letter, l ∈ nextLetters text ↔
      isNumeral (Text.upper text ++ [l.char]) = true ∨
        Text.upper text ++ [l.char] ∈ ["VV".toList, "LL".toList, "DD".toList]) ∧
    (nextLetters text).Nodup ∧ (nextLetters text).Sublist Letter.descending ∧
    ((∀ c ∈ text, isLetterChar c = true) → ∀ (l : Letter) (numeral : List Char),
      isNumeral numeral = true → text ++ [l.char] <+: numeral → l ∈ nextLetters text) := by
  have hdescending : Letter.descending.Nodup := by decide
  refine ⟨fun _ => mem_nextLetters_iff_text, ?_, nextLetters_sublist text, ?_⟩
  · exact (nextLetters_sublist text).nodup hdescending
  · intro hletters l numeral hnumeral hbegins
    obtain ⟨run, hrun⟩ := exists_letters hletters
    exact mem_nextLetters_of_begins hrun hnumeral hbegins

theorem nextLetters_lookahead_dotless :
    .I ∈ nextLetters "xı".toList ∧ .V ∈ nextLetters ['v'] ∧ .V ∉ nextLetters "ß".toList := by
  refine ⟨?_, ?_, ?_⟩
  · have hletters : ∀ c ∈ "xı".toList, isLetterChar c = true := List.all_eq_true.mp rfl
    exact (nextLetters_lookahead "xı".toList).2.2.2 hletters .I "xıIi".toList rfl ⟨['i'], rfl⟩
  · exact ((nextLetters_lookahead ['v']).1 .V).mpr (.inr (by decide))
  · intro hoffered
    have hcandidate := ((nextLetters_lookahead "ß".toList).1 .V).mp hoffered
    revert hcandidate
    decide +kernel

/-! ## The run at the end -/

theorem isLetterChar_of_mem_spell {letters : List Letter} {c : Char}
    (h : c ∈ Letter.spell letters) : isLetterChar c = true := by
  obtain ⟨l, -, rfl⟩ := List.mem_map.mp h
  simp [isLetterChar]

theorem isLetterChar_of_mem_trailingRun {text : List Char} {c : Char}
    (h : c ∈ trailingRun text) : isLetterChar c = true := by
  exact List.mem_rtakeWhile_imp h

/-- A text is the run at its end behind a text that ends in no letter. -/
theorem exists_trailingRun (text : List Char) :
    ∃ before, text = before ++ trailingRun text ∧
      ∀ c, before.getLast? = some c → isLetterChar c = false :=
  Text.exists_append_rtakeWhile isLetterChar text

theorem trailingRun_eq_nil {text : List Char}
    (h : ∀ c, text.getLast? = some c → isLetterChar c = false) : trailingRun text = [] :=
  Text.rtakeWhile_eq_nil_iff.mpr h

theorem trailingRun_ne_nil_iff {text : List Char} :
    trailingRun text ≠ [] ↔ ∃ c, text.getLast? = some c ∧ isLetterChar c = true := by
  have hnil : trailingRun text = [] ↔ ∀ c, text.getLast? = some c → isLetterChar c = false :=
    Text.rtakeWhile_eq_nil_iff
  simp [hnil]

/-- Letters behind a text make the run at its end longer. -/
theorem trailingRun_append_letters (text : List Char) {s : List Char}
    (hs : ∀ c ∈ s, isLetterChar c = true) : trailingRun (text ++ s) = trailingRun text ++ s :=
  Text.rtakeWhile_append text hs

theorem trailingRun_append {before run : List Char}
    (hbefore : ∀ c, before.getLast? = some c → isLetterChar c = false)
    (hrun : ∀ c ∈ run, isLetterChar c = true) : trailingRun (before ++ run) = run := by
  rw [trailingRun_append_letters before hrun, trailingRun_eq_nil hbefore, List.nil_append]

/-- A letter may be appended to a text where it makes its run a numeral or a dead end. -/
theorem mayAppend_iff_of_letters {text : List Char} {run : List Letter} {c : Char} {l : Letter}
    (hrun : Letter.ofChars? (trailingRun text) = some run) (hc : Letter.ofChar? c = some l) :
    mayAppend text [c] = true ↔ isWellFormed (run ++ [l]) = true ∨ run ++ [l] ∈ deadEnds := by
  rw [← mem_nextLetters_iff_of_letters hrun, mayAppend, Text.upper_cons,
    Letter.upperChar_of_ofChar? hc]
  simp

theorem mayAppend_iff {text : List Char} {run : List Letter} {c : Char} {l : Letter}
    (hrun : trailingRun text = Letter.spell run) (hc : Letter.ofChar? c = some l) :
    mayAppend text [c] = true ↔ isWellFormed (run ++ [l]) = true ∨ run ++ [l] ∈ deadEnds :=
  mayAppend_iff_of_letters (by rw [hrun, ofChars?_spell]) hc

end RomanCalc.Numeral
