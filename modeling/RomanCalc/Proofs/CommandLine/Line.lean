import RomanCalc.CommandLine.Session
import RomanCalc.Proofs.Evaluation
import RomanCalc.Proofs.Expression.Accepted
import RomanCalc.Proofs.Expression.Mixed

/-!
# The value of a line

A line that writes a mixed expression, with blanks wherever one likes, is evaluated as the numbers
and operators that the expression means (`evaluateLine_mixed`). Conversely a line has a value only
if its letters write numerals, each with a number, an operator or nothing behind it, and all else
in it are numbers and operators (`evaluateLine_wellFormed`).
-/

namespace RomanCalc

namespace CommandLine

open Expression (Mixed Strategy)
open Keypad (MaximalRun)

theorem choose_precedence (settings : Settings) :
    Strategy.choose settings (some "precedence".toList) = .ok .precedence := by
  rfl

/-- A line that writes a mixed expression within the limit is evaluated as the tokens of the
expression. -/
theorem evaluateLine_mixed {settings : Settings} {line : List Char} {e : Mixed}
    (hline : Text.removeBlanks line = e.text)
    (hlimit : ((Keypad.resolve (Text.removeBlanks line)).length : Int) ≤
      settings.maxInputLength) :
    ∃ evaluation,
      (evaluateLine settings line (some "precedence".toList)).2 = .ok evaluation ∧
        evaluation.record.Reports (Expression.evaluateTokens e.tokens) := by
  refine ⟨_, evaluate_of_choose (choose_precedence settings) _, ?_⟩
  rw [hline] at hlimit ⊢
  rw [← Mixed.evaluate_resolve_text hlimit]
  exact reports_record_under .precedence settings.maxInputLength _

theorem evaluateLine_mixed_line :
    ∃ evaluation,
      (evaluateLine .initial "- x iv + 2. * M".toList (some "precedence".toList)).2 =
        .ok evaluation ∧ evaluation.record.value = some 1986.0 := by
  obtain ⟨evaluation, hline, hreports⟩ :=
    @evaluateLine_mixed .initial "- x iv + 2. * M".toList
      ⟨true, .numeral "xiv".toList [.X, .I, .V] rfl rfl,
        [(.add, .decimal ⟨['2'], some [], List.all_eq_true.mp rfl, by decide⟩
            (by decide +kernel)),
          (.multiply, .numeral ['M'] [.M] rfl rfl)]⟩
      (by decide) (by decide)
  exact ⟨evaluation, hline, hreports⟩

/-- A line has a value only if every run of letters in it is a numeral before a number, an operator
or the end, and all else in it are points, operators and the digits of the strategy. -/
theorem evaluateLine_wellFormed {settings : Settings} {line : List Char}
    {name : Option (List Char)} {strategy : Strategy} {evaluation : Evaluation} {value : Float}
    (hstrategy : Strategy.choose settings name = .ok strategy)
    (hline : (evaluateLine settings line name).2 = .ok evaluation)
    (hvalue : evaluation.record.value = some value) :
    (∀ before run after, MaximalRun (Text.removeBlanks line) before run after →
      Numeral.isNumeral run = true ∧ ∀ c, after.head? = some c →
        Keypad.isNumberChar c = true ∨ isOperatorChar c = true) ∧
      ∀ c ∈ Text.removeBlanks line, isLetterChar c = false → strategy.accepts c = true := by
  have hunder : (evaluateLine settings line name).2 =
      .ok (Evaluation.under strategy settings.maxInputLength
        (.text (Keypad.resolve (Text.removeBlanks line)))) :=
    evaluate_of_choose hstrategy _
  rw [hunder] at hline
  cases hline
  have haccepts := Expression.accepts_of_evaluate (evaluate_of_value_record hvalue)
  constructor
  · intro before run after hrun
    apply Keypad.isNumeral_of_maximalRun hrun
    intro l hl
    have hletter := haccepts l.char hl (Expression.isBlank_letter l)
    rw [Expression.accepts_letter] at hletter
    cases hletter
  · intro c hc hletter
    exact haccepts c (Keypad.mem_resolve hc hletter) (Text.isBlank_of_mem_removeBlanks hc)

theorem evaluateLine_wellFormed_sum :
    Numeral.isNumeral "iv".toList = true ∧
      ∀ c ∈ "x+iv".toList, isLetterChar c = false → Strategy.binary.accepts c = true := by
  have hvalue : (Evaluation.under .binary 1000 (.text "10+4".toList)).record.value =
      some 14.0 := by
    decide +kernel
  obtain ⟨hruns, hrest⟩ :=
    @evaluateLine_wellFormed .initial "x + iv".toList (some "Binary".toList) .binary _ _ rfl rfl
      hvalue
  have hrun : MaximalRun "x+iv".toList "x+".toList "iv".toList [] := by
    refine ⟨rfl, by decide, List.all_eq_true.mp rfl, ?_, ?_⟩
    · intro c hc
      cases hc
      rfl
    · intro c hc
      cases hc
  exact ⟨(hruns _ _ _ hrun).1, hrest⟩

end CommandLine

end RomanCalc
