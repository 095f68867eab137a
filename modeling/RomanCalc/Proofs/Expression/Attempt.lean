import RomanCalc.Expression.Attempt
import RomanCalc.Proofs.Evaluation

/-!
# A value or nothing

What callers learn who only ask for a value is what the strategies find: the value by precedence
(`value?_eq`), the value of the one operation (`binaryValue?_split?`), with the operands it was found
for (`result_calculate?`), and whether there is one (`isValid_eq`). A record of an evaluation tells
the same value (`value_record_under`), so all of them agree (`attempts_agree`).
-/

namespace RomanCalc.Expression

/-! ## What the strategies find -/

/-- What is absent has no value, as it is no text. -/
theorem value?_eq (limit : Int) (expression : Datum) :
    value? limit expression = (Strategy.precedence.evaluate limit expression).toOption := by
  cases expression <;> rfl

theorem split?_eq (limit : Int) (expression : Datum) :
    split? limit expression = (split limit expression).toOption := by
  cases expression <;> rfl

theorem binaryValue?_split? (limit : Int) (expression : Datum) :
    binaryValue? (split? limit expression) =
      (Strategy.binary.evaluate limit expression).toOption := by
  rw [binaryValue?, split?_eq, Strategy.evaluate, toOption_bind]

/-- The parts are handed on where they have a value, and then with it. -/
theorem result_calculate? (limit : Int) (expression : Datum) :
    (calculate? limit expression).map Binary.result =
      (binaryValue? (split? limit expression)).map some := by
  rw [calculate?, binaryValue?, Option.map_bind, Option.map_bind]
  congr 1
  funext parts
  simp only [Function.comp_apply, Option.map_map]
  rfl

/-! ## Whether there is a value -/

/-- What counts as no expression at all is no text, or an empty one. -/
theorem textWithin_of_isVacant (limit : Int) {expression : Datum}
    (h : isVacant expression = true) :
    textWithin limit expression = .ok [] ∨ ∃ fault, textWithin limit expression = .error fault := by
  cases expression with
  | text s =>
    obtain rfl := List.isEmpty_iff.mp h
    by_cases hlimit : limit < 0
    · exact .inr ⟨.tooLong limit, if_pos hlimit⟩
    · exact .inl (if_neg hlimit)
  | _ => exact .inr ⟨.notText, rfl⟩

theorem toOption_evaluate_of_isVacant (limit : Int) {expression : Datum}
    (h : isVacant expression = true) (strategy : Strategy) :
    (strategy.evaluate limit expression).toOption = none := by
  rcases textWithin_of_isVacant limit h with htext | ⟨fault, htext⟩
  · cases strategy <;> simp only [Strategy.evaluate, checkStructure, split, htext] <;> rfl
  · cases strategy <;> simp only [Strategy.evaluate, checkStructure, split, htext] <;> rfl

theorem isValid_eq {settings : Settings} {name : Option (List Char)} {strategy : Strategy}
    (hname : Strategy.choose settings name = .ok strategy) (expression : Datum) :
    isValid settings expression name =
      .ok (strategy.evaluate settings.maxInputLength expression).toOption.isSome := by
  rw [isValid, hname]
  cases hvacant : isVacant expression with
  | true =>
    rw [toOption_evaluate_of_isVacant _ hvacant]
    rfl
  | false =>
    rw [if_neg Bool.false_ne_true, isSome_toOption]
    rfl

/-- Each form of evaluation tells what the record of the evaluation under the strategy of that name
tells: its value, or that it has none. -/
theorem attempts_agree (settings : Settings) (expression : Datum) :
    ∃ whole single : Evaluation,
      evaluate settings expression (some "precedence".toList) = .ok whole ∧
      value? settings.maxInputLength expression = whole.record.value ∧
      isValid settings expression (some "precedence".toList) = .ok whole.record.value.isSome ∧
      evaluate settings expression (some "binary".toList) = .ok single ∧
      (calculate? settings.maxInputLength expression).map Binary.result =
        single.record.value.map some ∧
      binaryValue? (split? settings.maxInputLength expression) = single.record.value ∧
      isValid settings expression (some "binary".toList) = .ok single.record.value.isSome := by
  have hprecedence : Strategy.choose settings (some "precedence".toList) = .ok .precedence := rfl
  have hbinary : Strategy.choose settings (some "binary".toList) = .ok .binary := rfl
  refine ⟨_, _, evaluate_of_choose hprecedence expression, ?_, ?_,
    evaluate_of_choose hbinary expression, ?_, ?_, ?_⟩
  · rw [value_record_under, value?_eq]
  · rw [value_record_under, isValid_eq hprecedence]
  · rw [value_record_under, result_calculate?, binaryValue?_split?]
  · rw [value_record_under, binaryValue?_split?]
  · rw [value_record_under, isValid_eq hbinary]

end RomanCalc.Expression
