import RomanCalc.Evaluation
import RomanCalc.Expression.Attempt
import RomanCalc.Journal.Note

/-!
# What is noted

The notes of each call: the faults that it meets on its way, whether or not its answer shows
them.
-/

namespace RomanCalc.Journal

/-- A note on a call that failed. -/
def debugNote (source : Source) (message : List Char) : Note :=
  ⟨.debug, source, message⟩

/-- The note on a fault of a call whose subject is shown before what happened to it. -/
def faultNote (subject happened : List Char) (fault : Fault) : Note :=
  debugNote .expression
    (subject ++ happened ++ fault.message.toList ++ " [".toList ++ fault.code.toList ++ [']'])

/-- The note on a datum, which is lost where the datum cannot be shown. -/
def noteOn (datum : Datum) (note : List Char → Note) : List Note :=
  match datum.shown with
  | .ok text => [note text]
  | .error _ => []

/-- The note on an expression that was turned down. -/
def rejection (expression : Datum) (fault : Fault) : List Note :=
  noteOn expression fun text => faultNote ("Expression ".toList ++ text) " rejected: ".toList fault

/-- The notes on an expression that is evaluated or split, unless it is absent. -/
def ofAttempt {α : Type} (attempt : Datum → Except Fault α) (expression : Datum) : List Note :=
  match Expression.present? expression with
  | some e =>
    match attempt e with
    | .ok _ => []
    | .error fault => rejection e fault
  | none => []

/-- The notes of finding a value by precedence. -/
def ofValue (limit : Int) (expression : Datum) : List Note :=
  ofAttempt (Expression.Strategy.precedence.evaluate limit) expression

/-- The notes of splitting an expression. -/
def ofSplit (limit : Int) (expression : Datum) : List Note :=
  ofAttempt (Expression.split limit) expression

/-- The notes of finding the value of a split expression. -/
def ofBinaryValue (binary : Option Expression.Binary) : List Note :=
  match binary with
  | some parts =>
    match parts.value with
    | .ok _ => []
    | .error fault =>
      [faultNote ("Evaluation of ".toList ++ Text.quoted parts.text) " failed: ".toList fault]
  | none => []

/-- The notes of splitting an expression and finding its value. -/
def ofCalculation (limit : Int) (expression : Datum) : List Note :=
  ofSplit limit expression ++ ofBinaryValue (Expression.split? limit expression)

/-- The notes of applying an operator to operands of any kind: a power that does not exist. -/
def ofPerform (left : Datum) (symbol : List Char) (right : Datum) : List Note :=
  match Expression.operands left symbol right with
  | .ok (some (a, op, b)) =>
    match op.combine a b with
    | .ok _ => []
    | .error _ =>
      [debugNote .calculator ("Calculation ".toList ++ Number.fullText a ++
        [' ', op.char, ' '] ++ Number.fullText b ++ " failed".toList)]
  | _ => []

/-- The notes of reading a text that has to be a numeral. -/
def ofNumeral (text : List Char) : List Note :=
  match Numeral.value? text with
  | .ok none => [debugNote .numerals ("Rejected numeral ".toList ++ Text.quoted text)]
  | _ => []

/-- The notes of reading a numeral with glyphs. -/
def ofFraction (text : List Char) : List Note :=
  match Uncia.numeralPart? text with
  | some numeral => ofNumeral numeral
  | none => []

/-- The notes of evaluating an expression. -/
def ofEvaluation (settings : Settings) (expression : Datum) (strategy : Option (List Char)) :
    List Note :=
  match Expression.Strategy.choose settings strategy with
  | .ok chosen =>
    match chosen.evaluate settings.maxInputLength expression with
    | .ok _ => []
    | .error fault =>
      noteOn expression fun text => debugNote .api ("Evaluation of ".toList ++ text ++
        " with ".toList ++ chosen.name ++ " failed: ".toList ++ fault.message.toList)
  | .error _ => []

end RomanCalc.Journal
