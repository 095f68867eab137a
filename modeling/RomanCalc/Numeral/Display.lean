import RomanCalc.Datum
import RomanCalc.Failure
import RomanCalc.Numeral.Encode

/-!
# Numbers as numerals

A number on the display is the numeral of its whole part, rounded down. What is no number has
the empty numeral.
-/

namespace RomanCalc.Numeral

/-- The numeral of the whole part of a double. -/
def ofFloat (x : Float) : Except Fault (List Char) :=
  match Number.Binary64.ofFloat x with
  | .nan => .ok []
  | .infinite negative => .error (.infiniteNumeral negative)
  | .finite .. => encodeSigned (Number.wholePart x)

/-- The numeral of the whole part of a datum. -/
def ofDatum : Datum → Except Failure (List Char)
  | .absent => .ok []
  | .truth b => (ofFloat (if b then 1.0 else 0.0)).mapError .fault
  | .integer n =>
    match Number.ofInt? n with
    | some x => (ofFloat x).mapError .fault
    | none => .error .integerTooLarge
  | .real x => (ofFloat x).mapError .fault
  | .text s =>
    match Number.readFloat? s with
    | some x => (ofFloat x).mapError .fault
    | none => .ok []
  | .list _ => .ok []

end RomanCalc.Numeral
