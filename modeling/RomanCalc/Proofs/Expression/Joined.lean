import RomanCalc.Proofs.Expression.Attempt
import RomanCalc.Proofs.Expression.Operands
import RomanCalc.Proofs.Number.Infinite

/-!
# Operands that are joined

Two literals can be handed over as operands, or joined with an operator to an expression. As
operands they are read even where their doubles are not finite (`perform_literals`), and as an
expression they are split only where both are finite (`toOption_evaluate_joined`). An operand that is
not finite shows in every result but two kinds, a quotient by an infinity and some powers
(`exists_apply_iff`), so only there one of the two has a value and the other has none
(`perform_joined`).
-/

namespace RomanCalc.Expression

open Number (Literal Signed)

/-! ## Operands that are not finite -/

/-- One of two doubles is not finite and still leaves a finite result: what is finite and divided by
an infinity, and some powers. -/
def Vanishes (a : Float) (op : Operator) (b : Float) : Prop :=
  (a.isFinite && b.isFinite) = false ∧
    match op with
    | .divide => a.isFinite = true ∧ b.isInf = true
    | .power => (Float.pow a b).isFinite = true
    | _ => False

/-- An operator has a value for an operand that is not finite just where the operand vanishes. -/
theorem exists_apply_iff {op : Operator} {a b : Float} (h : (a.isFinite && b.isFinite) = false) :
    (∃ value, op.apply a b = .ok value) ↔ Vanishes a op b := by
  simp only [operator_apply_eq_ok_iff]
  cases op with
  | add => simp [Operator.combine, Vanishes, Number.isFinite_add h]
  | subtract => simp [Operator.combine, Vanishes, Number.isFinite_sub h]
  | multiply => simp [Operator.combine, Vanishes, Number.isFinite_mul h]
  | divide =>
    have hquotient := Number.isFinite_div h
    simp only [Operator.combine, Vanishes, Except.ok.injEq]
    cases hinf : b.isInf with
    | true =>
      rw [Number.beq_zero_of_isInf hinf, if_neg Bool.false_ne_true]
      simpa [hquotient, hinf] using h
    | false =>
      split <;> simp [hquotient, hinf]
  | power =>
    have hpower : Number.power a b = .ok (Float.pow a b) := by
      simp [Number.power, h]
    simp [Operator.combine, Vanishes, hpower, Except.map, h]

/-! ## Literals -/

variable {limit : Int} {left : Signed Text.isDecimalDigit} {op : Operator}
  {right : Literal Text.isDecimalDigit}

/-- Two literals and an operator as an expression. -/
def joinedText (left : Signed Text.isDecimalDigit) (op : Operator)
    (right : Literal Text.isDecimalDigit) : List Char :=
  left.text ++ op.char :: right.text

theorem operand_signed (n : Signed Text.isDecimalDigit) :
    operand (.text n.text) = .ok (some n.value) := by
  have hpadded := operand_padded ⟨[], n, [], by simp⟩
  simpa [PaddedLiteral.text, PaddedLiteral.isSeparated] using hpadded

/-- Literals are read as operands whether their doubles are finite or not. -/
theorem perform_literals (left : Signed Text.isDecimalDigit) (op : Operator)
    (right : Literal Text.isDecimalDigit) :
    perform (.text left.text) [op.char] (.text right.text) =
      .ok (op.apply left.value right.value).toOption := by
  have hright : operand (.text right.text) = .ok (some right.value) :=
    operand_signed ⟨false, right⟩
  rw [perform_eq, operand_signed, hright, ← apply_char]
  rfl

/-- Literals that are joined have a value only where their doubles are finite. -/
theorem toOption_evaluate_joined (hlimit : ((joinedText left op right).length : Int) ≤ limit) :
    (Strategy.binary.evaluate limit (.text (joinedText left op right))).toOption =
      if left.value.isFinite && right.value.isFinite then
        (op.apply left.value right.value).toOption
      else none := by
  rw [Strategy.evaluate, toOption_bind]
  split
  · rename_i hfinite
    have hsplit := (split_joined_iff hlimit rfl).mpr ⟨by simpa using hfinite, rfl⟩
    rw [hsplit, ← apply_char]
    rfl
  · rename_i hfinite
    cases h : split limit (.text (joinedText left op right)) with
    | error fault => rfl
    | ok parts =>
      have hboth := ((split_joined_iff hlimit rfl).mp h).1
      exact absurd hboth (by simpa using hfinite)

/-- Two literals have the same value as operands and joined to an expression, or none in both,
unless one of them has no finite double and still leaves a finite result. -/
theorem perform_joined (hlimit : ((joinedText left op right).length : Int) ≤ limit) :
    ∃ value, perform (.text left.text) [op.char] (.text right.text) = .ok value ∧
      value = (op.apply left.value right.value).toOption ∧
      (calculate? limit (.text (joinedText left op right))).map Binary.result =
        (if left.value.isFinite && right.value.isFinite then value.map some else none) ∧
      ((calculate? limit (.text (joinedText left op right))).map Binary.result = value.map some ↔
        ¬Vanishes left.value op right.value) := by
  refine ⟨_, perform_literals left op right, rfl, ?_⟩
  have hcalculate : (calculate? limit (.text (joinedText left op right))).map Binary.result =
      if left.value.isFinite && right.value.isFinite then
        (op.apply left.value right.value).toOption.map some
      else none := by
    rw [result_calculate?, binaryValue?_split?, toOption_evaluate_joined hlimit]
    split <;> rfl
  refine ⟨hcalculate, ?_⟩
  rw [hcalculate]
  cases hfinite : left.value.isFinite && right.value.isFinite with
  | true =>
    refine iff_of_true rfl ?_
    rintro ⟨hnot, -⟩
    rw [hfinite] at hnot
    cases hnot
  | false =>
    rw [← exists_apply_iff hfinite]
    cases op.apply left.value right.value <;> simp [Except.toOption]

theorem perform_joined_quotient :
    ∃ value, perform (.text "-1".toList) ['/'] (.text ".5".toList) = .ok value ∧
      value = some (-2.0) ∧
      (calculate? 5 (.text "-1/.5".toList)).map Binary.result = value.map some := by
  have hlimit : ((joinedText ⟨true, ⟨['1'], none, List.all_eq_true.mp rfl, by decide⟩⟩ .divide
      ⟨[], some ['5'], List.all_eq_true.mp rfl, by decide⟩).length : Int) ≤ 5 := by decide
  obtain ⟨value, hperform, hvalue, hcalculate, -⟩ := perform_joined hlimit
  refine ⟨value, hperform, ?_, ?_⟩
  · rw [hvalue]
    decide +kernel
  · exact hcalculate

/-- One divided by a literal beyond all doubles is zero as operands, and out of range as an
expression. -/
theorem perform_vanishing :
    perform (.text ['1']) ['/'] (.text (List.replicate 400 '9')) = .ok (some 0.0) ∧
      calculate? 1000 (.text ('1' :: '/' :: List.replicate 400 '9')) = none := by
  constructor
  · exact toOption_eq_some_iff.mp (by decide +kernel)
  · exact Option.isNone_iff_eq_none.mp (by decide +kernel)

end RomanCalc.Expression
