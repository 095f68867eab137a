import RomanCalc.Numeral.Letter

/-!
# Well-formed numerals

The grammar of numerals without overlines: up to four `M`, then for the hundreds, the tens and
the ones up to three units, with a five before them, or a unit before a five or a ten.
-/

namespace RomanCalc.Numeral

/-- Letters without at most so many copies of a letter at their start. -/
def dropCopies (letter : Letter) : Nat → List Letter → List Letter
  | 0, letters => letters
  | _ + 1, [] => []
  | count + 1, l :: letters =>
    if l = letter then dropCopies letter count letters else l :: letters

/-- The three letters that write one decimal place. -/
structure Place where
  unit : Letter
  five : Letter
  ten : Letter

/-- The hundreds, the tens and the ones. -/
def places : List Place :=
  [⟨.C, .D, .M⟩, ⟨.X, .L, .C⟩, ⟨.I, .V, .X⟩]

/-- Letters without an optional five and at most three units at their start. -/
def Place.dropAdditive (place : Place) (letters : List Letter) : List Letter :=
  dropCopies place.unit 3 (dropCopies place.five 1 letters)

/-- Letters without the digit of a decimal place at their start. -/
def Place.drop (place : Place) : List Letter → List Letter
  | a :: b :: letters =>
    if a = place.unit ∧ (b = place.ten ∨ b = place.five) then letters
    else place.dropAdditive (a :: b :: letters)
  | letters => place.dropAdditive letters

/-- Whether letters are a numeral: something, and nothing but its thousands and its places. -/
def isWellFormed (letters : List Letter) : Bool :=
  !letters.isEmpty &&
    (places.foldl (fun rest place => place.drop rest) (dropCopies .M 4 letters)).isEmpty

/-- The letter that a character stands for in the grammar, where the dotted capital I also
stands for an I. -/
def grammarLetter? (c : Char) : Option Letter :=
  if c = 'İ' then some .I else Letter.ofChar? c

/-- Whether a text is a numeral. -/
def isNumeral (text : List Char) : Bool :=
  match text.mapM grammarLetter? with
  | some letters => isWellFormed letters
  | none => false

end RomanCalc.Numeral
