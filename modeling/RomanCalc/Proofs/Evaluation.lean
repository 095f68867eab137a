import RomanCalc.Evaluation
import RomanCalc.Proofs.Expression.Faults
import RomanCalc.Proofs.Uncia.Written

/-!
# What an evaluation is handed on as

The record of an evaluation tells the value of the expression or its fault (`reports_record_under`).
It has one of three shapes (`ResultRecord.HasShape`): a value that is written, a fault, or a value
beyond the numerals, which happens exactly where one of its two forms is (`BeyondNumerals`).
-/

namespace RomanCalc

open Expression (Strategy)

/-! ## What a record tells -/

/-- What a record tells of a computation: its value, or the code of its fault and no value. -/
def ResultRecord.Reports (record : ResultRecord) : Except Fault Float → Prop
  | .ok value => record.value = some value
  | .error fault =>
    record.ok = false ∧ record.code = some fault.code.toList ∧ record.value = none

/-- A value is told whether it can be written or not. -/
theorem value_record_ofValue (expression : Datum) (value : Float) :
    (Evaluation.mk expression (Outcome.ofValue value)).record.value = some value := by
  unfold Outcome.ofValue
  simp only
  split <;> rfl

theorem reports_record_under (strategy : Expression.Strategy) (limit : Int) (expression : Datum) :
    (Evaluation.under strategy limit expression).record.Reports
      (strategy.evaluate limit expression) := by
  unfold Evaluation.under
  cases strategy.evaluate limit expression with
  | ok value => exact value_record_ofValue expression value
  | error fault => exact ⟨rfl, rfl, rfl⟩

/-- A record has the value that the strategy finds, or none where that finds none. -/
theorem value_record_under (strategy : Expression.Strategy) (limit : Int) (expression : Datum) :
    (Evaluation.under strategy limit expression).record.value =
      (strategy.evaluate limit expression).toOption := by
  have hreports := reports_record_under strategy limit expression
  cases hresult : strategy.evaluate limit expression with
  | ok value =>
    rw [hresult] at hreports
    exact hreports
  | error fault =>
    rw [hresult] at hreports
    exact hreports.2.2

/-- A record with a value stems from an expression that has it. -/
theorem evaluate_of_value_record {strategy : Expression.Strategy} {limit : Int}
    {expression : Datum} {value : Float}
    (h : (Evaluation.under strategy limit expression).record.value = some value) :
    strategy.evaluate limit expression = .ok value := by
  rw [value_record_under] at h
  exact Expression.toOption_eq_some_iff.mp h

theorem evaluate_of_choose {settings : Settings} {name : Option (List Char)}
    {strategy : Expression.Strategy} (h : Expression.Strategy.choose settings name = .ok strategy)
    (expression : Datum) :
    evaluate settings expression name =
      .ok (Evaluation.under strategy settings.maxInputLength expression) := by
  rw [evaluate, h]
  rfl

/-- An evaluation keeps the expression that it is of. -/
theorem expression_of_evaluate {settings : Settings} {expression : Datum}
    {name : Option (List Char)} {evaluation : Evaluation}
    (h : evaluate settings expression name = .ok evaluation) :
    evaluation.expression = expression := by
  cases hchosen : Strategy.choose settings name with
  | error failure =>
    rw [evaluate, hchosen] at h
    cases h
  | ok strategy =>
    rw [evaluate_of_choose hchosen] at h
    cases h
    rfl

/-- A finite value is written unless it is beyond the numerals. -/
theorem Outcome.ofValue_of_isFinite {x : Float} (h : x.isFinite = true) :
    (BeyondNumerals x ∧ ∃ n, Outcome.ofValue x = .unwritable x (.numeralTooLarge n)) ∨
      (¬BeyondNumerals x ∧
        ∃ numeral fraction, Outcome.ofValue x = .written x numeral fraction) := by
  unfold Outcome.ofValue
  rw [Numeral.ofFloat_of_isFinite h, Uncia.ofFloat_of_isFinite h]
  by_cases hwhole : Numeral.largest < (Number.wholePart x).natAbs
  · refine .inl ⟨.inl hwhole, (Number.wholePart x).natAbs, ?_⟩
    rw [Numeral.encodeSigned_of_lt hwhole]
    rfl
  · have hsplit := Uncia.split_fst (isCounted_magnitude h)
    rw [Numeral.encodeSigned_of_le (Nat.not_lt.mp hwhole)]
    by_cases hrounded : (Numeral.largest : Int) < Uncia.roundedWhole (magnitude x)
    · refine .inl ⟨.inr hrounded, (Uncia.split (magnitude x)).1.toNat, ?_⟩
      rw [Uncia.ofMagnitude_of_lt (by rw [hsplit]; exact hrounded)]
      rfl
    · rw [Uncia.ofMagnitude_eq (by rw [hsplit]; exact not_lt.mp hrounded)]
      refine .inr ⟨?_, _, _, rfl⟩
      rintro (hbeyond | hbeyond)
      · exact hwhole hbeyond
      · exact hrounded hbeyond

/-- A value that is written has both its texts. -/
theorem Outcome.eq_written {x value : Float} {numeral fraction : List Char}
    (h : Outcome.ofValue x = .written value numeral fraction) :
    value = x ∧ Numeral.ofFloat x = .ok numeral ∧ Uncia.ofFloat x = .ok fraction := by
  unfold Outcome.ofValue at h
  cases hnumeral : Numeral.ofFloat x with
  | error fault =>
    rw [hnumeral] at h
    cases h
  | ok text =>
    cases hfraction : Uncia.ofFloat x with
    | error fault =>
      rw [hnumeral, hfraction] at h
      cases h
    | ok other =>
      rw [hnumeral, hfraction] at h
      cases h
      exact ⟨rfl, rfl, rfl⟩

/-- Where all went well there is a finite value with both its texts. -/
theorem exists_written_of_ok {settings : Settings} {expression : Datum} {name : Option (List Char)}
    {evaluation : Evaluation} (h : evaluate settings expression name = .ok evaluation)
    (hok : evaluation.record.ok = true) :
    ∃ value numeral fraction, evaluation.outcome = .written value numeral fraction ∧
      value.isFinite = true ∧ Numeral.ofFloat value = .ok numeral ∧
        Uncia.ofFloat value = .ok fraction := by
  cases hchosen : Strategy.choose settings name with
  | error failure =>
    rw [evaluate, hchosen] at h
    cases h
  | ok strategy =>
    rw [evaluate_of_choose hchosen] at h
    cases h
    unfold Evaluation.under at hok ⊢
    cases hvalue : strategy.evaluate settings.maxInputLength expression with
    | error fault =>
      rw [hvalue] at hok
      cases hok
    | ok value =>
      simp only [hvalue] at hok ⊢
      cases houtcome : Outcome.ofValue value with
      | written other numeral fraction =>
        obtain ⟨rfl, hnumeral, hfraction⟩ := Outcome.eq_written houtcome
        exact ⟨_, _, _, rfl, Expression.isFinite_of_evaluate hvalue, hnumeral, hfraction⟩
      | unwritable other fault =>
        rw [houtcome] at hok
        cases hok
      | rejected fault =>
        rw [houtcome] at hok
        cases hok

/-! ## Shapes -/

/-- The shapes of a record. -/
inductive ResultShape
  | written
  | rejected
  | unwritable

/-- The codes of expressions without a value. -/
def rejectionCodes : List String :=
  ["MALFORMED_EXPRESSION", "TOO_LONG", "INVALID_OPERAND", "DIVISION_BY_ZERO", "NUMERIC_OVERFLOW"]

/-- Which fields a record of each shape has. -/
def ResultRecord.HasShape (record : ResultRecord) : ResultShape → Prop
  | .written =>
    record.ok = true ∧ (∃ value, record.value = some value ∧ value.isFinite = true) ∧
      record.numeral.isSome ∧ record.fraction.isSome ∧ record.error = none ∧ record.code = none
  | .rejected =>
    record.ok = false ∧ record.value = none ∧ record.numeral = none ∧ record.fraction = none ∧
      record.error.isSome ∧ ∃ code ∈ rejectionCodes, record.code = some code.toList
  | .unwritable =>
    record.ok = false ∧ (∃ value, record.value = some value ∧ value.isFinite = true) ∧
      record.numeral = none ∧ record.fraction = none ∧ record.error.isSome ∧
      record.code = some "NUMERAL_TOO_LARGE".toList

/-- The shape of a record can be told from two of its fields. -/
def ResultRecord.shape (record : ResultRecord) : ResultShape :=
  if record.ok then .written else if record.value.isSome then .unwritable else .rejected

theorem ResultRecord.HasShape.eq_shape {record : ResultRecord} {shape : ResultShape}
    (h : record.HasShape shape) : shape = record.shape := by
  unfold ResultRecord.shape
  cases shape with
  | written =>
    obtain ⟨hok, -⟩ := h
    simp [hok]
  | rejected =>
    obtain ⟨hok, hvalue, -⟩ := h
    simp [hok, hvalue]
  | unwritable =>
    obtain ⟨hok, ⟨value, hvalue, -⟩, -⟩ := h
    simp [hok, hvalue]

theorem code_mem_rejectionCodes {fault : Fault}
    (h : fault.kind ∈ Expression.evaluationFaults) : fault.code ∈ rejectionCodes := by
  have hcode : fault.code = "TOO_LONG" ∨ fault.code = fault.kind.code := by
    cases fault with
    | tooLong limit => exact .inl rfl
    | _ => exact .inr rfl
  have hkinds : ∀ kind ∈ Expression.evaluationFaults, kind.code ∈ rejectionCodes := by decide
  rcases hcode with hcode | hcode
  · rw [hcode]
    decide
  · rw [hcode]
    exact hkinds _ h

variable {strategy : Strategy} {limit : Int} {expression : Datum}

theorem hasShape_rejected {fault : Fault} (h : strategy.evaluate limit expression = .error fault) :
    (Evaluation.under strategy limit expression).record.HasShape .rejected := by
  have hcode := code_mem_rejectionCodes (Expression.kind_of_evaluate h)
  unfold Evaluation.under
  rw [h]
  exact ⟨rfl, rfl, rfl, rfl, rfl, fault.code, hcode, rfl⟩

theorem hasShape_unwritable {value : Float} (h : strategy.evaluate limit expression = .ok value)
    (hbeyond : BeyondNumerals value) :
    (Evaluation.under strategy limit expression).record.HasShape .unwritable := by
  have hfinite := Expression.isFinite_of_evaluate h
  unfold Evaluation.under
  rw [h]
  rcases Outcome.ofValue_of_isFinite hfinite with ⟨-, n, houtcome⟩ | ⟨hnot, -⟩
  · simp only [houtcome]
    exact ⟨rfl, ⟨value, rfl, hfinite⟩, rfl, rfl, rfl, rfl⟩
  · exact absurd hbeyond hnot

theorem hasShape_written {value : Float} (h : strategy.evaluate limit expression = .ok value)
    (hbeyond : ¬BeyondNumerals value) :
    (Evaluation.under strategy limit expression).record.HasShape .written := by
  have hfinite := Expression.isFinite_of_evaluate h
  unfold Evaluation.under
  rw [h]
  rcases Outcome.ofValue_of_isFinite hfinite with ⟨hbeyond', -⟩ | ⟨-, numeral, fraction, houtcome⟩
  · exact absurd hbeyond' hbeyond
  · simp only [houtcome]
    exact ⟨rfl, ⟨value, rfl, hfinite⟩, rfl, rfl, rfl, rfl⟩

theorem choose_of_chosenName {settings : Settings} {name : Option (List Char)}
    (h : Strategy.chosenName settings name = strategy.name) :
    Strategy.choose settings name = .ok strategy := by
  unfold Strategy.choose
  rw [h]
  cases strategy <;> rfl

theorem exists_hasShape (strategy : Strategy) (limit : Int) (expression : Datum) :
    ∃ shape, (Evaluation.under strategy limit expression).record.HasShape shape := by
  cases h : strategy.evaluate limit expression with
  | error fault => exact ⟨.rejected, hasShape_rejected h⟩
  | ok value =>
    by_cases hbeyond : BeyondNumerals value
    · exact ⟨.unwritable, hasShape_unwritable h hbeyond⟩
    · exact ⟨.written, hasShape_written h hbeyond⟩

theorem hasShape_unwritable_iff :
    (Evaluation.under strategy limit expression).record.HasShape .unwritable ↔
      ∃ value, strategy.evaluate limit expression = .ok value ∧ BeyondNumerals value := by
  constructor
  · intro hshape
    cases h : strategy.evaluate limit expression with
    | error fault =>
      have hother := (hasShape_rejected h).eq_shape.trans hshape.eq_shape.symm
      cases hother
    | ok value =>
      refine ⟨value, rfl, ?_⟩
      by_contra hbeyond
      have hother := (hasShape_written h hbeyond).eq_shape.trans hshape.eq_shape.symm
      cases hother
  · rintro ⟨value, h, hbeyond⟩
    exact hasShape_unwritable h hbeyond

/-- The codes of all shapes. -/
theorem ResultRecord.HasShape.code_mem {record : ResultRecord} {shape : ResultShape}
    (h : record.HasShape shape) {code : List Char} (hcode : record.code = some code) :
    code ∈ ("NUMERAL_TOO_LARGE" :: rejectionCodes).map String.toList := by
  cases shape with
  | written =>
    obtain ⟨-, -, -, -, -, hnone⟩ := h
    rw [hnone] at hcode
    cases hcode
  | rejected =>
    obtain ⟨-, -, -, -, -, name, hname, hsome⟩ := h
    rw [hsome] at hcode
    cases hcode
    exact List.mem_map_of_mem (List.mem_cons_of_mem _ hname)
  | unwritable =>
    obtain ⟨-, -, -, -, -, hsome⟩ := h
    rw [hsome] at hcode
    cases hcode
    exact List.mem_cons_self

/-- Whatever is to be evaluated under a strategy that exists has a record of exactly one shape,
which tells its value or its fault. A value goes unwritten exactly if it is beyond the numerals,
and below that its twelfths can be counted. -/
theorem evaluate_hasShape {settings : Settings} {name : Option (List Char)}
    (hname : Strategy.chosenName settings name = strategy.name) (expression : Datum) :
    ∃ evaluation, evaluate settings expression name = .ok evaluation ∧
      evaluation.record.Reports (strategy.evaluate settings.maxInputLength expression) ∧
      (∃! shape, evaluation.record.HasShape shape) ∧
      (evaluation.record.HasShape .unwritable ↔ ∃ value,
        strategy.evaluate settings.maxInputLength expression = .ok value ∧
          BeyondNumerals value) ∧
      (∀ value, strategy.evaluate settings.maxInputLength expression = .ok value →
        (Number.wholePart value).natAbs ≤ Numeral.largest → Uncia.IsCounted (magnitude value)) ∧
      ∀ code, evaluation.record.code = some code →
        code ≠ "UNKNOWN_OPERATOR".toList ∧ code ≠ "INVALID_NUMERAL".toList := by
  obtain ⟨shape, hshape⟩ := exists_hasShape strategy settings.maxInputLength expression
  refine ⟨_, evaluate_of_choose (choose_of_chosenName hname) expression,
    reports_record_under strategy _ expression, ⟨shape, hshape, ?_⟩, hasShape_unwritable_iff, ?_,
    ?_⟩
  · intro other hother
    exact hother.eq_shape.trans hshape.eq_shape.symm
  · intro value hvalue _
    exact isCounted_magnitude (Expression.isFinite_of_evaluate hvalue)
  · intro code hcode
    have hlisted := hshape.code_mem hcode
    constructor
    · rintro rfl
      exact absurd hlisted (by decide)
    · rintro rfl
      exact absurd hlisted (by decide)

theorem evaluate_hasShape_carried :
    ∃ evaluation, evaluate .initial (.text "399999.96+0".toList) (some "Binary".toList) =
      .ok evaluation ∧ evaluation.record.HasShape .unwritable := by
  have hvalue : Strategy.binary.evaluate 1000 (.text "399999.96+0".toList) = .ok 399999.96 := rfl
  have hbeyond : BeyondNumerals 399999.96 := .inr (by decide +kernel)
  obtain ⟨evaluation, hevaluation, -, -, hunwritable, -⟩ :=
    @evaluate_hasShape .binary .initial (some "Binary".toList) rfl (.text "399999.96+0".toList)
  exact ⟨evaluation, hevaluation, hunwritable.mpr ⟨_, hvalue, hbeyond⟩⟩

end RomanCalc
