import RomanCalc.Failure
import RomanCalc.Numeral.Letter

/-!
# Writing numerals

Whole numbers as numerals. An overlined letter is worth a thousand times the plain one, which
carries numerals up to 399999. The numeral is found greedily over the table of values. A number
beyond that is named in what is reported, as long as its digits can be written.
-/

namespace RomanCalc.Numeral

/-- The mark that overlines the letter before it. -/
def overline : Char := Char.ofNat 0x304

/-- A letter with or without an overline. -/
structure Glyph where
  letter : Letter
  overlined : Bool
deriving DecidableEq

/-- The characters of a glyph. -/
def Glyph.chars (glyph : Glyph) : List Char :=
  if glyph.overlined then [glyph.letter.char, overline] else [glyph.letter.char]

/-- A letter without an overline. -/
def plain (letter : Letter) : Glyph := ⟨letter, false⟩

/-- A letter with an overline, the vinculum. -/
def vinculum (letter : Letter) : Glyph := ⟨letter, true⟩

/-- The values that are written as they are, in descending order. -/
def table : List (Nat × List Glyph) :=
  [(100000, [vinculum .C]), (90000, [vinculum .X, vinculum .C]), (50000, [vinculum .L]),
    (40000, [vinculum .X, vinculum .L]), (10000, [vinculum .X]), (9000, [vinculum .I, vinculum .X]),
    (5000, [vinculum .V]), (4000, [vinculum .I, vinculum .V]), (1000, [plain .M]),
    (900, [plain .C, plain .M]), (500, [plain .D]), (400, [plain .C, plain .D]),
    (100, [plain .C]), (90, [plain .X, plain .C]), (50, [plain .L]), (40, [plain .X, plain .L]),
    (10, [plain .X]), (9, [plain .I, plain .X]), (5, [plain .V]), (4, [plain .I, plain .V]),
    (1, [plain .I])]

/-- Writes a number with the values of a table, each as often as it fits. -/
def greedy : List (Nat × List Glyph) → Nat → List Glyph
  | [], _ => []
  | (value, glyphs) :: rows, n =>
    (List.replicate (n / value) glyphs).flatten ++ greedy rows (n % value)

/-- The glyphs of a number. -/
def glyphs (n : Nat) : List Glyph :=
  greedy table n

/-- Glyphs as text. -/
def spell (row : List Glyph) : List Char :=
  row.flatMap Glyph.chars

/-- The largest number that has a numeral. -/
def largest : Nat := 399999

/-- The numeral of a number that is not below zero; zero has the empty one. -/
def ofNat (n : Nat) : Except Fault (List Char) :=
  if largest < n then .error (.numeralTooLarge n) else .ok (spell (glyphs n))

/-- What is reported of a number that has no numeral: the fault, which names the number, or that
its digits cannot be written. -/
def failure (n : Nat) (fault : Fault) : Failure :=
  match Number.writeInt n with
  | .ok _ => .fault fault
  | .error error => .badInteger error

/-- The numeral of a whole number of any size; zero and the numbers below it have the empty one. -/
def encode (n : Int) : Except Failure (List Char) :=
  (ofNat n.toNat).mapError (failure n.toNat)

/-- The numeral of a number with a minus sign for numbers below zero. It is for whole parts of
doubles, whose digits can always be written. -/
def encodeSigned (n : Int) : Except Fault (List Char) :=
  (ofNat n.natAbs).map fun text => if n < 0 then '-' :: text else text

end RomanCalc.Numeral
