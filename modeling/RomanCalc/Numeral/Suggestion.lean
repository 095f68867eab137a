import RomanCalc.Numeral.Grammar

/-!
# Extending a numeral

Which letters a keypad offers while a numeral is being typed, and the run of letters at the end
of a text that they would extend.
-/

namespace RomanCalc.Numeral

/-- Whether a letter may stand next to itself at the start of a numeral. -/
def isRepeatable : Letter → Bool
  | .I | .X | .C | .M => true
  | .V | .L | .D => false

/-- Whether two letters are a unit before its five or its ten. -/
def isSubtractive (a b : Letter) : Bool :=
  places.any fun place => a = place.unit && (b = place.five || b = place.ten)

/-- Whether text may still grow into a numeral, judged by its first two letters: one letter may,
two letters may unless they are a subtractive pair or rise, and three or more may not. -/
def mayGrow (text : List Char) : Bool :=
  match Text.upper text with
  | [] => true
  | [a] => (Letter.ofCapital? a).isSome
  | [a, b] =>
    match Letter.ofCapital? a, Letter.ofCapital? b with
    | some a, some b =>
      !isSubtractive a b && ((a = b && isRepeatable a) || b.weight ≤ a.weight)
    | _, _ => false
  | _ => false

/-- The letters that may follow a text, heaviest first: those that make it a numeral or leave it
able to grow. -/
def nextLetters (text : List Char) : List Letter :=
  if text.isEmpty then Letter.descending
  else Letter.descending.filter fun l =>
    let candidate := Text.upper text ++ [l.char]
    isNumeral candidate || mayGrow candidate

/-- The letters at the end of a text, as they are written. -/
def trailingRun (text : List Char) : List Char :=
  (text.reverse.takeWhile isLetterChar).reverse

/-- Whether a letter, given as text, may be appended to the letters at the end of a text. -/
def mayAppend (text letter : List Char) : Bool :=
  match Text.upper letter with
  | [c] => (Letter.ofCapital? c).any fun l => decide (l ∈ nextLetters (trailingRun text))
  | _ => false

end RomanCalc.Numeral
