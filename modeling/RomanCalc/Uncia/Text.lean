import RomanCalc.Numeral.Decode
import RomanCalc.Text.Blank
import RomanCalc.Uncia.Fraction

/-!
# Numerals with fractions

Numbers written as a numeral and the glyphs of the twelfths (`ofFloat`, `ofQuantity`), and read
back (`read`).
-/

namespace RomanCalc.Uncia

/-- A number that is not below zero as a numeral with glyphs. Nothing is written for zero. -/
def ofMagnitude (x : Float) : Except Fault (List Char) :=
  let (whole, twelfths) := split x
  if whole = 0 ∧ (twelfths : Nat) = 0 then .ok []
  else (Numeral.ofNat whole.toNat).map (· ++ glyphs twelfths)

/-- A double as a numeral with glyphs, after a minus sign for numbers below zero. What is no
number has the empty text. -/
def ofFloat (x : Float) : Except Fault (List Char) :=
  match Number.Binary64.ofFloat x with
  | .nan => .ok []
  | .infinite negative => .error (.infiniteNumeral negative)
  | .finite .. => if x < 0.0 then (ofMagnitude (-x)).map ('-' :: ·) else ofMagnitude x

/-- A number as a numeral with glyphs. A whole number has no glyphs, and must not be beyond all
doubles. -/
def ofQuantity : Quantity → Except Failure (List Char)
  | .integer n => (realOfInt n).bind fun _ => (Numeral.encodeSigned n).mapError .fault
  | .real x => (ofFloat x).mapError .fault

/-- The counts of twelfths with glyphs, those with two glyphs first. -/
def byGlyphLength : List Twelfths :=
  [7, 8, 9, 10, 11, 1, 2, 3, 4, 5, 6].map Twelfths.ofNat

/-- Cuts the glyphs off the end of a text: the text before them, and their twelfths. The glyphs
are looked for in the text in capitals, and as many characters are cut off as they have. -/
def cutGlyphs (text : List Char) : List Char × Twelfths :=
  match byGlyphLength.find? fun t => (glyphs t).isSuffixOf (Text.upper text) with
  | some t => (text.take (text.length - (glyphs t).length), t)
  | none => (text, noTwelfths)

/-- The sign of a text and what is behind it, without the blanks around the text. -/
def signAndBody (text : List Char) : Float × List Char :=
  match Text.trim text with
  | '-' :: rest => (-1.0, rest)
  | trimmed => (1.0, trimmed)

/-- The numeral of a text in front of its glyphs, if it has one. -/
def numeralPart? (text : List Char) : Option (List Char) :=
  let numeral := (cutGlyphs (signAndBody text).2).1
  if numeral.isEmpty then none else some numeral

/-- The number that a numeral with glyphs writes, with an optional minus sign and blanks around
it. -/
def read (text : List Char) : Except Failure Float :=
  let (sign, body) := signAndBody text
  if body.isEmpty then .error (.fault (.invalidFraction text))
  else
    let whole := match numeralPart? text with
      | some numeral => Numeral.read numeral
      | none => .ok 0
    whole.map fun n => sign * (Float.ofNat n + Float.ofNat (cutGlyphs body).2 / 12.0)

end RomanCalc.Uncia
