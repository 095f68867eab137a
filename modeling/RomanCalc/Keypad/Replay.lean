import RomanCalc.Keypad.Display
import RomanCalc.Text.Blank
import RomanCalc.Text.Quoted

/-!
# Replaying keys

A text is typed key by key, and each key is described in a line. Blanks are no keys. A letter
that cannot extend the letters at the end of the display is ignored, as a keypad would disable
its key.
-/

namespace RomanCalc.Keypad

/-- Whether a key is disabled: a letter that cannot extend the letters at the end. -/
def isDisabled (display : List Char) (key : Char) : Bool :=
  isLetterChar key && !Numeral.mayAppend display [key]

/-- The display after a key of a replay. -/
def replayKey (display : List Char) (key : Char) : List Char :=
  if isDisabled display key then display else press display [key]

/-- The letters that may come next, as a line shows them. -/
def nextText (run : List Char) : List Char :=
  let letters := Letter.spell (Numeral.nextLetters run)
  if letters.isEmpty then ['-'] else letters

/-- The line of a key that leads to a display. -/
def acceptedLine (key : Char) (display : List Char) : List Char :=
  let run := Numeral.trailingRun display
  Text.quoted [key] ++ ": ".toList ++ display ++
    (if run.isEmpty then [] else "  [next: ".toList ++ nextText run ++ [']']) ++
    (if isIncomplete display then "  (incomplete numeral)".toList else []) ++
    (match Operator.ofChar? key with
      | some op => "  (".toList ++ op.sign ++ ' ' :: op.latinName ++ [')']
      | none => [])

/-- The line of a key that is ignored. -/
def ignoredLine (key : Char) (display : List Char) : List Char :=
  Text.quoted [key] ++ ": ignored, cannot extend ".toList ++
    Text.quoted (Numeral.trailingRun display)

/-- The line of a key typed at a display. -/
def keyLine (display : List Char) (key : Char) : List Char :=
  if isDisabled display key then ignoredLine key display
  else acceptedLine key (press display [key])

/-- The lines of the keys typed at a display. -/
def replayFrom (display : List Char) : List Char → List (List Char)
  | [] => []
  | key :: keys => keyLine display key :: replayFrom (replayKey display key) keys

/-- The lines of the keys of a text. -/
def replay (text : List Char) : List (List Char) :=
  replayFrom [] (Text.removeBlanks text)

end RomanCalc.Keypad
