import RomanCalc.Text.Case.Mapping
import RomanCalc.Text.Case.Context

/-!
# Upper and lower case

Full case conversion: a letter may become several characters, as sharp s does in capitals, and
a small sigma has a form of its own at the end of a word.
-/

namespace RomanCalc.Text

/-- The capitals of a character: itself where it has none. -/
def upperChar (c : Char) : List Char :=
  if c.toNat < 0x80 then [c.toUpper]
  else match upperExpansions.lookup c.toNat with
    | some codes => codes.map Char.ofNat
    | none => [((upperRuns.findSome? fun run => run.image? c.toNat).map Char.ofNat).getD c]

/-- Text in capitals. -/
def upper (text : List Char) : List Char :=
  text.flatMap upperChar

/-- The small letters of a character outside any word: itself where it has none. The dotted
capital I keeps its dot. -/
def lowerChar (c : Char) : List Char :=
  if c.toNat < 0x80 then [c.toLower]
  else if c.toNat = 0x130 then ['i', Char.ofNat 0x307]
  else [((lowerRuns.findSome? fun run => run.image? c.toNat).map Char.ofNat).getD c]

/-- Whether the first character that is not ignored has case. -/
def startsCased : List Char → Bool
  | [] => false
  | c :: rest => if isCaseIgnorable c then startsCased rest else isCased c

/-- Text in small letters, where the flag tells whether a cased character stands before it. A
capital sigma after a cased character and before none is the last of its word. -/
def lowerAfter (afterCased : Bool) : List Char → List Char
  | [] => []
  | c :: rest =>
    let letters :=
      if c = 'Σ' then
        if afterCased && !startsCased rest then ['ς'] else ['σ']
      else
        lowerChar c
    letters ++ lowerAfter (if isCaseIgnorable c then afterCased else isCased c) rest

/-- Text in small letters. -/
def lower (text : List Char) : List Char :=
  lowerAfter false text

@[simp] theorem upper_nil : upper [] = [] := rfl

@[simp] theorem upper_cons (c : Char) (text : List Char) :
    upper (c :: text) = upperChar c ++ upper text := rfl

@[simp] theorem upper_append (s t : List Char) : upper (s ++ t) = upper s ++ upper t := by
  simp [upper]

end RomanCalc.Text
