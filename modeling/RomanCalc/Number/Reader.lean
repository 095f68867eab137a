import RomanCalc.Text.Blank
import RomanCalc.Text.Quoted
import RomanCalc.Number.Literal
import RomanCalc.Number.Style

/-!
# Numbers from settings and operands

The wide forms in which a number may be given outside expressions: padded, with a plus sign,
with single underscores between digits, and, where it need not be whole, with an exponent, or as
an infinity or not a number. A whole number is converted from text and to text only as long as it
has not too many digits.
-/

namespace RomanCalc.Number

/-- The basic character that stands for a character in a number: digits of every script stand
for their values and blanks of every script for a space. -/
def plainChar (c : Char) : Char :=
  if c.toNat < 0x7F then c
  else if Text.isBlank c then ' '
  else match Text.digitValue? c with
    | some n => Nat.digitChar n
    | none => '?'

/-- Whether a basic character may pad a number. -/
def isPadding (c : Char) : Bool :=
  c = ' ' || (0x09 ≤ c.toNat && c.toNat ≤ 0x0D)

/-- Text in basic characters, without the padding. -/
def basicText (text : List Char) : List Char :=
  (((text.map plainChar).dropWhile isPadding).reverse.dropWhile isPadding).reverse

/-- Whether every underscore stands between two digits. The flag tells whether a digit stands
before the text. -/
def underscoresFit (afterDigit : Bool) : List Char → Bool
  | [] => true
  | c :: rest =>
    if c = '_' then afterDigit && rest.head?.any Char.isDigit && underscoresFit false rest
    else underscoresFit c.isDigit rest

/-- Takes a sign off the front: whether it is a minus sign, and the rest. -/
def takeSign : List Char → Bool × List Char
  | '-' :: rest => (true, rest)
  | '+' :: rest => (false, rest)
  | text => (false, text)

/-- Reads the digits of an exponent, with their sign. -/
def exponent? (text : List Char) : Option Int :=
  match takeSign text with
  | (negative, digits) =>
    if digits.isEmpty || !digits.all Char.isDigit then none
    else
      let n : Int := Text.digitsValue digits
      some (if negative then -n else n)

/-- Reads a number with an optional exponent. -/
def scientific? (text : List Char) : Option Decimal := do
  let d ← unsignedLiteral? (text.takeWhile fun c => c.toLower ≠ 'e')
  match text.dropWhile fun c => c.toLower ≠ 'e' with
  | [] => some d
  | _ :: power => (exponent? power).map fun n => { d with exponent := d.exponent + n }

/-- Reads a double. -/
def readFloat? (text : List Char) : Option Float :=
  let plain := basicText text
  if !underscoresFit false plain then none
  else
    match takeSign (plain.filter (· ≠ '_')) with
    | (negative, body) =>
      let name := String.ofList (body.map Char.toLower)
      if name = "inf" ∨ name = "infinity" then some (if negative then -infinity else infinity)
      else if name = "nan" then some (0.0 / 0.0)
      else (scientific? body).map fun d => { d with negative }.toFloat

/-- Why a whole number is not read from a text, or not written as one. -/
inductive IntegerError
  /-- The text is not a sign and digits. -/
  | malformed (text : List Char)
  /-- The text has more digits than are converted. -/
  | tooManyDigits (count : Nat)
  /-- The number has more digits than are converted. -/
  | tooLong
deriving DecidableEq

/-- The most digits of a whole number that are converted. -/
def maxIntegerDigits : Nat := 4300

/-- What is reported of too many digits, with what is known of their count. -/
def limitMessage (found : String) : String :=
  "Exceeds the limit (" ++ toString maxIntegerDigits ++ " digits) for integer string conversion" ++
    found ++ "; use sys.set_int_max_str_digits() to increase the limit"

/-- What is reported; of a long text only the beginning is quoted. -/
def IntegerError.message : IntegerError → String
  | .malformed text =>
    "invalid literal for int() with base 10: " ++ String.ofList ((Text.quoted text).take 200)
  | .tooManyDigits count => limitMessage (": value has " ++ toString count ++ " digits")
  | .tooLong => limitMessage ""

/-- Reads a whole number. -/
def readInt (text : List Char) : Except IntegerError Int :=
  match takeSign ((text.map plainChar).dropWhile isPadding) with
  | (negative, body) =>
    let row := body.takeWhile fun c => c.isDigit || c = '_'
    let digits := row.filter (· ≠ '_')
    let rest := body.dropWhile fun c => c.isDigit || c = '_'
    if row.isEmpty || !underscoresFit false row then .error (.malformed text)
    else if maxIntegerDigits < digits.length then .error (.tooManyDigits digits.length)
    else if !rest.all isPadding then .error (.malformed text)
    else
      let n : Int := Text.digitsValue digits
      .ok (if negative then -n else n)

/-- Writes a whole number. -/
def writeInt (n : Int) : Except IntegerError (List Char) :=
  if maxIntegerDigits < digitCount n.natAbs then .error .tooLong else .ok (intText n)

end RomanCalc.Number
