import RomanCalc.Expression.Strategy
import RomanCalc.Numeral.Display
import RomanCalc.Uncia.Text

/-!
# Evaluations

What comes of evaluating an expression: a value with its numeral and its fraction, a value too
large for a numeral, or a fault. An evaluation is handed on as a record of the fields that it
has.
-/

namespace RomanCalc

/-- What comes of evaluating an expression. -/
inductive Outcome
  /-- A value that can be written. -/
  | written (value : Float) (numeral fraction : List Char)
  /-- A value that cannot be written. -/
  | unwritable (value : Float) (fault : Fault)
  /-- No value. -/
  | rejected (fault : Fault)

/-- Writes a value as a numeral and as a numeral with a fraction. -/
def Outcome.ofValue (value : Float) : Outcome :=
  let forms := do
    let numeral ← Numeral.ofFloat value
    let fraction ← Uncia.ofFloat value
    pure (numeral, fraction)
  match forms with
  | .ok (numeral, fraction) => .written value numeral fraction
  | .error fault => .unwritable value fault

/-- An expression with what came of evaluating it. -/
structure Evaluation where
  expression : Datum
  outcome : Outcome

/-- Evaluates an expression under a strategy. -/
def Evaluation.under (strategy : Expression.Strategy) (limit : Int) (expression : Datum) :
    Evaluation :=
  ⟨expression, match strategy.evaluate limit expression with
    | .ok value => Outcome.ofValue value
    | .error fault => .rejected fault⟩

/-- Evaluates an expression under the strategy that is asked for. -/
def evaluate (settings : Settings) (expression : Datum) (strategy : Option (List Char)) :
    Except Failure Evaluation :=
  (Expression.Strategy.choose settings strategy).map fun chosen =>
    Evaluation.under chosen settings.maxInputLength expression

/-- An evaluation as it is handed on. A field that is not there is left out. -/
structure ResultRecord where
  ok : Bool
  value : Option Float
  numeral : Option (List Char)
  fraction : Option (List Char)
  expression : Datum
  error : Option (List Char)
  code : Option (List Char)

/-- An evaluation as it is handed on. -/
def Evaluation.record (evaluation : Evaluation) : ResultRecord :=
  match evaluation.outcome with
  | .written value numeral fraction =>
    ⟨true, some value, some numeral, some fraction, evaluation.expression, none, none⟩
  | .unwritable value fault =>
    ⟨false, some value, none, none, evaluation.expression,
      some fault.message.toList, some fault.code.toList⟩
  | .rejected fault =>
    ⟨false, none, none, none, evaluation.expression,
      some fault.message.toList, some fault.code.toList⟩

namespace ResultRecord

/-- A field that may be missing. -/
def field? {α : Type} (name : String) (datum : α → Datum) (value : Option α) :
    Option (String × Datum) :=
  value.map fun a => (name, datum a)

/-- The expression, unless none was given. -/
def expression? (record : ResultRecord) : Option Datum :=
  match record.expression with
  | .absent => none
  | expression => some expression

/-- The fields that are there, in their order. -/
def fields (record : ResultRecord) : List (String × Datum) :=
  ("ok", .truth record.ok) ::
    [field? "expression" id record.expression?, field? "value" .real record.value,
      field? "numeral" .text record.numeral, field? "fraction" .text record.fraction,
      field? "error" .text record.error, field? "code" .text record.code].filterMap id

/-- A field of a description: its name and its literal. -/
def describeField (name : String) (literal : List Char) : List Char :=
  name.toList ++ '=' :: literal

/-- The literal of a value that may be missing. -/
def literalOr {α : Type} (literal : α → List Char) (value : Option α) : List Char :=
  (value.map literal).getD Datum.absentText

/-- The parts of a description: an error and its code, or a value and the forms that are
there. -/
def descriptionParts (record : ResultRecord) : List (List Char) :=
  if record.ok then
    [describeField "ok" (Datum.truthText true),
      describeField "value" (literalOr Number.fullText record.value)] ++
    (record.numeral.map fun text => describeField "numeral" (Text.quoted text)).toList ++
    (record.fraction.map fun text => describeField "fraction" (Text.quoted text)).toList
  else
    [describeField "ok" (Datum.truthText false),
      describeField "error" (literalOr Text.quoted record.error),
      describeField "code" (literalOr Text.quoted record.code)]

/-- A record in one line. -/
def describe (record : ResultRecord) : List Char :=
  "EvalResult(".toList ++ ", ".toList.intercalate record.descriptionParts ++ [')']

end ResultRecord

end RomanCalc
