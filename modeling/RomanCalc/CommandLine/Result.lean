import RomanCalc.CommandLine.Terminal
import RomanCalc.Evaluation

/-!
# Printing results

An evaluation is printed for programs, as JSON, or for people: a numeral, a fraction where there
is one, and the decimal number. A terminal that cannot show the numeral or the fraction gets the
numeral with question marks instead.
-/

namespace RomanCalc.CommandLine

/-- How results are printed. -/
inductive Format
  | json
  | human
deriving DecidableEq

/-- The format with a name; every other name is for people. -/
def Format.ofName (name : List Char) : Format :=
  if name = "json".toList then json else human

/-- The line of a fraction, for a value that has one. -/
def fractionLine? (value : Float) (fraction : List Char) : Option (List Char) :=
  match Uncia.hasFraction (.real value), Uncia.fractionName (.real value) with
  | .ok true, .ok name =>
    some ("Fraction: ".toList ++ fraction ++ " (".toList ++ name.toList ++ [')'])
  | _, _ => none

/-- Prints a value with its numeral and its fraction. -/
def printValue (encoding : Encoding) (value : Float) (numeral fraction : List Char) : Printout :=
  let shown := if numeral.isEmpty then "nulla".toList else numeral
  let roman := encoding.printLines (shown :: (fractionLine? value fraction).toList)
  let readable :=
    match roman.stopped with
    | some _ =>
      Printout.andThen ⟨roman.written, none⟩ (encoding.printLine (Text.replaceUnencodable shown))
    | none => roman
  readable.andThen (encoding.printParts ["Decimal:".toList, Number.briefText value])

/-- Prints an evaluation. -/
def printEvaluation (encoding : Encoding) (format : Format) (evaluation : Evaluation) : Printout :=
  match format with
  | .json =>
    match jsonObject evaluation.record.fields with
    | .ok text => encoding.printLine text
    | .error error => .failed (.badInteger error)
  | .human =>
    match evaluation.outcome with
    | .written value numeral fraction => printValue encoding value numeral fraction
    | .unwritable _ fault | .rejected fault =>
      encoding.printParts ["Error:".toList, fault.message.toList]

end RomanCalc.CommandLine
