import RomanCalc.Text.Decomposition.Singleton
import RomanCalc.Text.Decomposition.Sequence
import RomanCalc.Text.Decomposition.CombiningClass

/-!
# Canonical decomposition

Text with every precomposed character taken apart into its letter and its marks, and the marks
of each letter in the order of their combining classes.
-/

namespace RomanCalc.Text

/-- The letters of a Hangul syllable, which are computed from its code point: a leading
consonant, a vowel, and a trailing consonant where there is one. -/
def decomposeSyllable (code : Nat) : List Nat :=
  let index := code - 0xAC00
  let lead := 0x1100 + index / 588
  let vowel := 0x1161 + index % 588 / 28
  if index % 28 = 0 then [lead, vowel] else [lead, vowel, 0x11A7 + index % 28]

/-- The single character that a character decomposes to, if it decomposes to one. -/
def singleton? (code : Nat) : Option Nat :=
  singletonRuns.findSome? fun run => if run.1 ≤ code then run.2[code - run.1]? else none

/-- The canonical decomposition of a character. -/
def decomposeChar (c : Char) : List Char :=
  let code := c.toNat
  if code < 0x80 then [c]
  else if 0xAC00 ≤ code ∧ code ≤ 0xD7A3 then (decomposeSyllable code).map Char.ofNat
  else match decompositionSequences.lookup code with
    | some codes => codes.map Char.ofNat
    | none => [((singleton? code).map Char.ofNat).getD c]

/-- Puts a character before text whose marks are in order: it moves behind the marks of lower
class that follow it, and a character of class zero stays where it is. -/
def insertMark (c : Char) : List Char → List Char
  | [] => [c]
  | d :: rest =>
    if combiningClass d ≠ 0 ∧ combiningClass d < combiningClass c then d :: insertMark c rest
    else c :: d :: rest

/-- Text with the marks of each letter in the order of their classes; marks of one class keep
their order. -/
def orderMarks (text : List Char) : List Char :=
  text.foldr insertMark []

/-- The canonical decomposition of a text. -/
def decompose (text : List Char) : List Char :=
  orderMarks (text.flatMap decomposeChar)

end RomanCalc.Text
