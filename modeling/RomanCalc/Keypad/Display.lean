import RomanCalc.Numeral.Decode
import RomanCalc.Numeral.Suggestion
import RomanCalc.Operator

/-!
# The display of the keypad

A display mixes decimal digits, operators and Roman letters. A run of letters that is a numeral
turns into its value as soon as a digit or an operator follows it; what happens to the run at
the end of the display is the only difference between a display that is still being typed
(`refresh`) and one that is ready to be evaluated (`resolve`).
-/

namespace RomanCalc.Keypad

/-- Whether a character belongs to a decimal number. -/
def isNumberChar (c : Char) : Bool :=
  c.isDigit || c = '.'

/-- What a character is on the display. -/
inductive CharClass
  | letter (l : Letter)
  | number
  | operator
  /-- Neither a letter nor part of an expression. -/
  | other
deriving DecidableEq

/-- What a character is on the display. -/
def classify (c : Char) : CharClass :=
  match Letter.ofChar? c with
  | some l => .letter l
  | none => if isNumberChar c then .number else if isOperatorChar c then .operator else .other

/-- A run of letters as the value of its numeral; a run that is none stays in capitals. -/
def settle (run : List Letter) : List Char :=
  if Numeral.isWellFormed run then Nat.toDigits 10 (Numeral.lettersValue run)
  else Letter.spell run

/-- Reads the rest of a display while a run of letters is being read, where `finish` says what
becomes of a run at the end. Behind a run, a digit, a point or an operator settles it; any other
character leaves it in capitals. -/
def interpret (finish : List Letter → List Char) (run : List Letter) : List Char → List Char
  | [] => finish run
  | c :: rest =>
    match classify c with
    | .letter l => interpret finish (run ++ [l]) rest
    | .number | .operator => settle run ++ c :: interpret finish [] rest
    | .other => Letter.spell run ++ c :: interpret finish [] rest

/-- The display ready to be evaluated: the run at the end is settled as well. -/
def resolve (text : List Char) : List Char :=
  interpret settle [] text

/-- The display while it is being typed: the run at the end may still grow. -/
def refresh (text : List Char) : List Char :=
  interpret Letter.spell [] text

/-- The display after a key, which may be any text. -/
def press (display key : List Char) : List Char :=
  refresh (display ++ Text.upper key)

/-- Whether the display ends in letters that are no numeral yet. -/
def isIncomplete (display : List Char) : Bool :=
  let run := Numeral.trailingRun display
  !run.isEmpty && !Numeral.isNumeral run

/-- What is being typed. -/
inductive Pending
  | nothing
  | letters (run : List Letter)
  | number (digits : List Char)
deriving DecidableEq

namespace Pending

/-- What is being typed after one more character. A character that is no part of an expression
interrupts nothing. -/
def next (pending : Pending) (c : Char) : Pending :=
  match classify c, pending with
  | .letter l, letters run => letters (run ++ [l])
  | .letter l, _ => letters [l]
  | .number, number digits => number (digits ++ [c])
  | .number, _ => number [c]
  | .operator, _ => nothing
  | .other, _ => pending

/-- What is being typed, as text. -/
def chars : Pending → List Char
  | nothing => []
  | letters run => Letter.spell run
  | number digits => digits

end Pending

/-- What is being typed at the end of a display. -/
def pending (display : List Char) : Pending :=
  display.foldl Pending.next .nothing

/-- Whether a text may be appended to a display: one letter where letters are being typed, and a
whole numeral where they are not. -/
def mayAppendNumeral (display numeral : List Char) : Bool :=
  match pending display with
  | .letters _ => numeral.length = 1 && Numeral.mayAppend display numeral
  | _ => Numeral.isNumeral numeral

end RomanCalc.Keypad
