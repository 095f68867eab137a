import RomanCalc.Text.Case

/-!
# Numeral letters

The seven letters of Roman numerals and their weights. A letter is written in either case; the
dotless small i is a small I as well.
-/

namespace RomanCalc

/-- A letter of Roman numerals. -/
inductive Letter
  | I
  | V
  | X
  | L
  | C
  | D
  | M
deriving DecidableEq

namespace Letter

/-- The letters from the heaviest to the lightest. -/
def descending : List Letter := [M, D, C, L, X, V, I]

/-- What a letter stands for. -/
def weight : Letter → Nat
  | I => 1
  | V => 5
  | X => 10
  | L => 50
  | C => 100
  | D => 500
  | M => 1000

/-- The capital that writes a letter. -/
def char : Letter → Char
  | I => 'I'
  | V => 'V'
  | X => 'X'
  | L => 'L'
  | C => 'C'
  | D => 'D'
  | M => 'M'

/-- The letter that a capital writes. -/
def ofCapital? : Char → Option Letter
  | 'I' => some I
  | 'V' => some V
  | 'X' => some X
  | 'L' => some L
  | 'C' => some C
  | 'D' => some D
  | 'M' => some M
  | _ => none

/-- The letter that a character writes, in either case. -/
def ofChar? : Char → Option Letter
  | 'I' | 'i' | 'ı' => some I
  | 'V' | 'v' => some V
  | 'X' | 'x' => some X
  | 'L' | 'l' => some L
  | 'C' | 'c' => some C
  | 'D' | 'd' => some D
  | 'M' | 'm' => some M
  | _ => none

/-- The letter that a whole text writes. -/
def ofText? : List Char → Option Letter
  | [c] => ofChar? c
  | _ => none

/-- The letters that a text writes, if every character writes one. -/
def ofChars? (text : List Char) : Option (List Letter) :=
  text.mapM ofChar?

/-- Letters written in capitals. -/
def spell (letters : List Letter) : List Char :=
  letters.map char

/-- A letter is read back from its capital. -/
@[simp] theorem ofCapital?_char (l : Letter) : ofCapital? l.char = some l := by
  cases l <;> rfl

@[simp] theorem ofChar?_char (l : Letter) : ofChar? l.char = some l := by
  cases l <;> rfl

/-- Only its own capital writes a letter where capitals are asked for. -/
theorem ofCapital?_eq_some_iff {c : Char} {l : Letter} : ofCapital? c = some l ↔ c = l.char := by
  constructor
  · intro h
    unfold ofCapital? at h
    split at h <;> simp at h <;> subst h <;> rfl
  · rintro rfl
    exact ofCapital?_char l

/-- A character that writes a letter has that letter's capital as its upper case. -/
theorem upperChar_of_ofChar? {c : Char} {l : Letter} (h : ofChar? c = some l) :
    Text.upperChar c = [l.char] := by
  unfold ofChar? at h
  split at h <;> simp at h <;> subst h <;> decide

@[simp] theorem spell_nil : spell [] = [] := rfl

@[simp] theorem spell_append (a b : List Letter) : spell (a ++ b) = spell a ++ spell b := by
  simp [spell]

end Letter

/-- Whether a character writes a numeral letter. -/
def isLetterChar (c : Char) : Bool :=
  (Letter.ofChar? c).isSome

end RomanCalc
