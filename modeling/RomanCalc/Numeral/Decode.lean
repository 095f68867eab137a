import RomanCalc.Failure
import RomanCalc.Numeral.Encode
import RomanCalc.Numeral.Grammar
import RomanCalc.Text.Decomposition

/-!
# Reading numerals

Two readings. `decode` weighs any text at all: each letter counts for or against the sum as its
right neighbour is not heavier or is. `value?` reads well-formed numerals only, and `read` makes
anything else a fault.
-/

namespace RomanCalc.Numeral

/-- The weight of a character in capitals; a character that is no letter weighs nothing. -/
def charWeight (c : Char) : Nat :=
  ((Letter.ofCapital? c).map Letter.weight).getD 0

/-- The weights of the characters of a text, where the overlines behind a character multiply its
weight. An overline with nothing before it has no effect. -/
def weights : List Char → List Nat
  | [] => []
  | c :: rest =>
    if c = overline then weights rest
    else charWeight c * Nat.pow 1000 (rest.takeWhile (· = overline)).length :: weights rest

/-- The sum of weights, where a weight counts against the sum when a heavier one follows it. -/
def weigh : List Nat → Int
  | [] => 0
  | w :: rest => if w < rest.headD 0 then weigh rest - w else weigh rest + w

/-- The number that any text weighs. -/
def decode (text : List Char) : Int :=
  weigh (weights (Text.decompose (Text.upper text)))

/-- The value of letters, taken from the left: a letter before a heavier one is subtracted from
it, and any other is added. -/
def lettersValue : List Letter → Nat
  | [] => 0
  | [a] => a.weight
  | a :: b :: rest =>
    if a.weight < b.weight then (b.weight - a.weight) + lettersValue rest
    else a.weight + lettersValue (b :: rest)

/-- The value of a numeral, and nothing for a text that is none. The dotted capital I passes the
grammar and has no weight. -/
def value? (text : List Char) : Except Failure (Option Nat) :=
  if isNumeral text then
    match Letter.ofChars? text with
    | some letters => .ok (some (lettersValue letters))
    | none => .error (.unlisted ['İ'])
  else
    .ok none

/-- The value of a text that has to be a numeral. -/
def read (text : List Char) : Except Failure Nat :=
  (value? text).bind fun
    | some n => .ok n
    | none => .error (.fault (.invalidNumeral text))

end RomanCalc.Numeral
