import RomanCalc.Number.Binary64
import RomanCalc.Number.Decimal

/-!
# Doubles on decimal grids

The decimal that stands for a positive double `significand · 2 ^ exponent`: the one with the
fewest digits among those that read back as the double (`shortest`), or the nearest one with a
given number of digits (`significant`). All comparisons are exact, on whole numbers.
-/

namespace RomanCalc.Number

/-- Compares `a · 10 ^ p` with `b · 2 ^ q`. -/
def compareScaled (a : Nat) (p : Int) (b : Nat) (q : Int) : Ordering :=
  compare (a * tenTo p.toNat * twoTo (-q).toNat) (b * twoTo q.toNat * tenTo (-p).toNat)

/-- The greatest whole number of powers `10 ^ p` not above `m · 2 ^ e`. -/
def gridFloor (m : Nat) (e p : Int) : Nat :=
  m * twoTo e.toNat * tenTo (-p).toNat / (twoTo (-e).toNat * tenTo p.toNat)

/-- The power of ten of the first digit of `m · 2 ^ e`. -/
def leadingPower (m : Nat) (e : Int) : Int :=
  let above := m * twoTo e.toNat
  let below := twoTo (-e).toNat
  if below ≤ above then (digitCount (above / below) : Int) - 1
  else -(digitCount ((below - 1) / above) : Int)

/-- Whether `a · 10 ^ p` reads back as the double `m · 2 ^ e`. The numbers that do lie between
the midpoints to the neighbouring doubles; the lower neighbour of a power of two is only half as
far away, and the midpoints themselves go to an even significand. -/
def readsBack (m : Nat) (e : Int) (a : Nat) (p : Int) : Bool :=
  let low := if m = leadingBit ∧ -1074 < e then 4 * m - 1 else 4 * m - 2
  let aboveLow := compareScaled a p low (e - 2)
  let belowHigh := compareScaled a p (4 * m + 2) (e - 2)
  (aboveLow == .gt || (aboveLow == .eq && m % 2 = 0)) &&
    (belowHigh == .lt || (belowHigh == .eq && m % 2 = 0))

/-- Whether `m · 2 ^ e` is nearer to `a + 1` than to `a` on the grid of `10 ^ p`; a tie goes to
the even one. -/
def roundsUp (m : Nat) (e : Int) (a : Nat) (p : Int) : Bool :=
  match compareScaled (2 * a + 1) p m (e + 1) with
  | .lt => true
  | .eq => a % 2 = 1
  | .gt => false

/-- The multiple of `10 ^ p` that stands for `m · 2 ^ e`, if the double has a neighbour on that
grid that reads back. Of two the nearer stands for it. -/
def onGrid? (m : Nat) (e p : Int) : Option Nat :=
  let a := gridFloor m e p
  match readsBack m e a p, readsBack m e (a + 1) p with
  | true, true => some (if roundsUp m e a p then a + 1 else a)
  | true, false => some a
  | false, true => some (a + 1)
  | false, false => none

/-- The nearest decimal with so many digits. -/
def significant (count : Nat) (negative : Bool) (m : Nat) (e : Int) : Decimal :=
  let p := leadingPower m e - count + 1
  let a := gridFloor m e p
  ⟨negative, if roundsUp m e a p then a + 1 else a, p⟩

/-- The decimal with the fewest digits that reads back as the double. Seventeen digits always
suffice. -/
def shortest (negative : Bool) (m : Nat) (e : Int) : Decimal :=
  let found := (List.range 17).findSome? fun (more : Nat) =>
    let p := leadingPower m e - more
    (onGrid? m e p).map fun a => Decimal.mk negative a p
  found.getD (significant 17 negative m e)

end RomanCalc.Number
