import RomanCalc.Failure
import RomanCalc.Numeral.Encode

/-!
# Twelfths

Fractions are written in twelfths: with one to five dots, and from a half on with the letter of
the half before the dots. Each has a Latin name. A number is split into a whole and the nearest
count of twelfths.
-/

namespace RomanCalc.Uncia

/-- A count of twelfths below one whole. -/
abbrev Twelfths := Fin 12

/-- A count of twelfths without its wholes. -/
def Twelfths.ofNat (n : Nat) : Twelfths :=
  ⟨n % 12, Nat.mod_lt n (by decide)⟩

/-- No twelfths. -/
def noTwelfths : Twelfths := Twelfths.ofNat 0

/-- The Latin names of the counts of twelfths. -/
def names : List String :=
  ["", "uncia", "sextans", "quadrans", "triens", "quincunx", "semis", "septunx", "bes",
    "dodrans", "dextans", "deunx"]

/-- The Latin name of a count of twelfths. -/
def name (twelfths : Twelfths) : String :=
  names.getD twelfths ""

/-- The dots of up to five twelfths. -/
def dots : Nat → List Char
  | 1 => ['·']
  | 2 => [':']
  | 3 => ['∴']
  | 4 => ['∷']
  | 5 => ['⁙']
  | _ => []

/-- The glyphs of a count of twelfths. -/
def glyphs (twelfths : Twelfths) : List Char :=
  if (twelfths : Nat) < 6 then dots twelfths else 'S' :: dots (twelfths - 6)

/-- A number as a whole and the nearest count of twelfths; the last half of a twelfth before the
next whole is carried to it. -/
def split (x : Float) : Int × Twelfths :=
  let whole := Number.wholePart x
  let twelfths := Number.wholePart ((x - Float.ofInt whole) * 12.0 + 0.5)
  (whole + twelfths / 12, .ofNat (twelfths % 12).toNat)

/-- A number that is a double or a whole number of any size. -/
inductive Quantity
  | integer (n : Int)
  | real (x : Float)

/-- The nearest double to a whole number, which may be beyond all doubles. -/
def realOfInt (n : Int) : Except Failure Float :=
  match Number.ofInt? n with
  | some x => .ok x
  | none => .error .integerTooLarge

/-- The nearest number of twelfths to a double, as a double. -/
def roundTwelfths (twelfths : Float) : Except Failure Float :=
  ((Number.roundHalfUp twelfths).map fun n => Float.ofInt n / 12.0).mapError .notFinite

/-- A number rounded to twelfths, where half a twelfth goes up. -/
def round : Quantity → Except Failure Float
  | .integer n => (realOfInt (12 * n)).bind roundTwelfths
  | .real x => roundTwelfths (x * 12.0)

/-- Whether a number keeps a fraction when it is rounded to twelfths. -/
def hasFraction (q : Quantity) : Except Failure Bool :=
  (round q).map fun x => x != Float.ofInt (Number.wholePart x)

/-- The Latin name of the twelfths of a number above its whole part. -/
def fractionName : Quantity → Except Failure String
  | .integer _ => .ok (name noTwelfths)
  | .real x => ((Number.floor x).map fun _ => name (split x).2).mapError .notFinite

end RomanCalc.Uncia
