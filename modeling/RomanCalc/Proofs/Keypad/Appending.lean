import RomanCalc.Proofs.Keypad.Ending
import RomanCalc.Proofs.Keypad.Replay

/-!
# Appending numerals

Whether a numeral may be appended is decided by what is being typed (`pending`), and a single
letter then by the run at the end of the display. The two differ where a character that is no part
of an expression ends the display: it interrupts nothing and ends the run. But a display that ends
in a letter has letters being typed (`exists_pending_letters`), so a whole numeral is only let
through where there is no run, and what may be appended never makes an impossible run
(`mayAppendNumeral_sound`).
-/

namespace RomanCalc.Keypad

/-! ## What is being typed -/

theorem Pending.exists_next_letters (pending : Pending) {c : Char} (hc : isLetterChar c = true) :
    ∃ run, pending.next c = .letters run := by
  obtain ⟨l, hl⟩ := Option.isSome_iff_exists.mp hc
  unfold next
  rw [classify_eq_letter_iff.mpr hl]
  cases pending with
  | nothing => exact ⟨[l], rfl⟩
  | letters run => exact ⟨run ++ [l], rfl⟩
  | number digits => exact ⟨[l], rfl⟩

/-- At the end of a display that ends in a letter, letters are being typed. -/
theorem exists_pending_letters {display : List Char} {c : Char}
    (hlast : display.getLast? = some c) (hc : isLetterChar c = true) :
    ∃ run, pending display = .letters run := by
  obtain ⟨front, rfl⟩ := List.getLast?_eq_some_iff.mp hlast
  rw [pending_concat]
  exact Pending.exists_next_letters (pending front) hc

/-! ## What may be appended -/

/-- What is let through is a letter that the run at the end takes, or a numeral behind a display
that ends in no letter. -/
theorem mayAppendNumeral_cases {display numeral : List Char}
    (h : mayAppendNumeral display numeral = true) :
    (∃ c, numeral = [c] ∧ Numeral.mayAppend display [c] = true) ∨
      (Numeral.isNumeral numeral = true ∧
        ∀ c, display.getLast? = some c → isLetterChar c = false) := by
  unfold mayAppendNumeral at h
  split at h
  · rw [Bool.and_eq_true, decide_eq_true_eq, List.length_eq_one_iff] at h
    obtain ⟨⟨c, rfl⟩, htaken⟩ := h
    exact .inl ⟨c, rfl, htaken⟩
  · rename_i hpending
    refine .inr ⟨h, fun c hlast => ?_⟩
    rw [Bool.eq_false_iff]
    intro hc
    obtain ⟨run, hrun⟩ := exists_pending_letters hlast hc
    exact hpending run hrun

/-- The check is sound for every display: the run at the end is a numeral or a dead end once a text
of letters that may be appended is appended. More than one letter may only be appended where there
is no run, and is then resolved to its value. -/
theorem mayAppendNumeral_sound {display numeral : List Char}
    (hletters : ∀ c ∈ numeral, isLetterChar c = true)
    (h : mayAppendNumeral display numeral = true) :
    (Numeral.isNumeral (Text.upper (Numeral.trailingRun (display ++ numeral))) = true ∨
      Text.upper (Numeral.trailingRun (display ++ numeral)) ∈ deadEndTexts) ∧
    (2 ≤ numeral.length → Numeral.trailingRun display = [] ∧
      ∃ n, Numeral.value? numeral = .ok (some n) ∧
        resolve (display ++ numeral) = refresh display ++ Nat.toDigits 10 n) := by
  rw [Numeral.trailingRun_append_letters display hletters]
  rcases mayAppendNumeral_cases h with ⟨c, rfl, htaken⟩ | ⟨hnumeral, hlast⟩
  · obtain ⟨run, hrun⟩ := Numeral.exists_letters
      fun d (hd : d ∈ Numeral.trailingRun display) => Numeral.isLetterChar_of_mem_trailingRun hd
    obtain ⟨l, hl⟩ := Option.isSome_iff_exists.mp (hletters c List.mem_cons_self)
    have happended : Letter.ofChars? (Numeral.trailingRun display ++ [c]) = some (run ++ [l]) :=
      Numeral.ofChars?_append_eq_some_iff.mpr
        ⟨run, [l], hrun, Numeral.ofChars?_cons_eq_some_iff.mpr ⟨l, [], hl, rfl, rfl⟩, rfl⟩
    constructor
    · rw [Numeral.upper_of_letters happended, Numeral.isNumeral_spell, spell_mem_deadEndTexts_iff]
      exact (Numeral.mayAppend_iff_of_letters hrun hl).mp htaken
    · intro hlong
      simp at hlong
  · obtain ⟨letters, hnumeralLetters⟩ := Numeral.exists_letters hletters
    have hformed : Numeral.isWellFormed letters = true := by
      rwa [← Numeral.isNumeral_of_letters hnumeralLetters]
    rw [Numeral.trailingRun_eq_nil hlast, List.nil_append,
      Numeral.upper_of_letters hnumeralLetters, Numeral.isNumeral_spell]
    refine ⟨.inl hformed, fun _ => ⟨rfl, Numeral.lettersValue letters, ?_, ?_⟩⟩
    · rw [Numeral.value?_of_letters hnumeralLetters, hformed]
      rfl
    · rw [resolve, interpret_append hlast, interpret_letters hnumeralLetters,
        settle_of_wellFormed hformed]

/-- Behind the dollar sign a letter is still being typed, so no pair may be appended, but the letter
that would make a dead end of the two may. Behind an operator a whole numeral may. -/
theorem mayAppendNumeral_sound_interrupted :
    pending "V$".toList = .letters [.V] ∧ mayAppendNumeral "V$".toList "IV".toList = false ∧
      Numeral.isNumeral (Text.upper (Numeral.trailingRun "V$v".toList)) = true ∧
      resolve "V$+xIv".toList = "V$+14".toList := by
  refine ⟨rfl, by decide +kernel, ?_, ?_⟩
  · have hletters : ∀ c ∈ ['v'], isLetterChar c = true := List.all_eq_true.mp rfl
    have htaken : mayAppendNumeral "V$".toList ['v'] = true := by decide +kernel
    have hsound := (mayAppendNumeral_sound hletters htaken).1
    have hend : Text.upper (Numeral.trailingRun ("V$".toList ++ ['v'])) ∉ deadEndTexts := by
      decide +kernel
    exact hsound.resolve_right hend
  · have hletters : ∀ c ∈ "xIv".toList, isLetterChar c = true := List.all_eq_true.mp rfl
    have htaken : mayAppendNumeral "V$+".toList "xIv".toList = true := by decide +kernel
    obtain ⟨-, n, hvalue, hresolve⟩ :=
      (mayAppendNumeral_sound hletters htaken).2 (by decide)
    have hread : Numeral.value? "xIv".toList = .ok (some 14) := rfl
    rw [hread] at hvalue
    cases hvalue
    exact hresolve

end RomanCalc.Keypad
