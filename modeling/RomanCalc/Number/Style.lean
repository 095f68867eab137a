import RomanCalc.Number.Rounding

/-!
# Numbers as text

The two styles in which doubles are written: in full, with the digits that read back as the same
double, and in brief, with six digits.
-/

namespace RomanCalc.Number

/-- How digits are laid out. -/
structure Style where
  /-- The first power of ten whose numbers are written with an exponent. -/
  plainBelow : Int
  /-- Whether a whole number is written with a point and a zero. -/
  keepsPoint : Bool

/-- In full, numbers below `10 ^ 16` are plain and whole ones end in `.0`. -/
def Style.full : Style := ⟨16, true⟩

/-- In brief, numbers below `10 ^ 6` are plain and whole ones have no point. -/
def Style.brief : Style := ⟨6, false⟩

/-- The digits behind the point, with the point where it is written. -/
def fractionText (keepsPoint : Bool) (digits : List Char) : List Char :=
  if digits.isEmpty then (if keepsPoint then ['.', '0'] else []) else '.' :: digits

/-- Digits without an exponent, where the first digit has the given power of ten. -/
def plainText (keepsPoint : Bool) (digits : List Char) (leading : Int) : List Char :=
  if leading < 0 then '0' :: '.' :: List.replicate (-leading - 1).toNat '0' ++ digits
  else
    let places := leading.toNat + 1
    digits.take places ++ List.replicate (places - digits.length) '0' ++
      fractionText keepsPoint (digits.drop places)

/-- An exponent: its sign and at least two digits. -/
def exponentText (power : Int) : List Char :=
  let digits := Nat.toDigits 10 power.natAbs
  (if power < 0 then '-' else '+') :: List.replicate (2 - digits.length) '0' ++ digits

/-- Digits with an exponent. -/
def scientificText (digits : List Char) (leading : Int) : List Char :=
  digits.take 1 ++ fractionText false (digits.drop 1) ++ 'e' :: exponentText leading

/-- A decimal in a style. Numbers below `10 ^ -4` have an exponent in every style. -/
def Style.decimalText (style : Style) (d : Decimal) : List Char :=
  let leading := if d.coefficient = 0 then 0 else d.leading
  let body :=
    if -4 ≤ leading ∧ leading < style.plainBelow then
      plainText style.keepsPoint d.digits leading
    else
      scientificText d.digits leading
  if d.negative then '-' :: body else body

/-- A double in a style, where the digits of a positive double are found by the given rule. -/
def Style.write (style : Style) (round : Bool → Nat → Int → Decimal) (x : Float) : List Char :=
  match Binary64.ofFloat x with
  | .nan => "nan".toList
  | .infinite negative => (if negative then "-inf" else "inf").toList
  | .finite negative m e =>
    style.decimalText (if m = 0 then ⟨negative, 0, 0⟩ else round negative m e)

/-- A double in full: the fewest digits that read back as it. -/
def fullText (x : Float) : List Char :=
  Style.full.write shortest x

/-- A double in brief: six digits, without the zeros at their end. -/
def briefText (x : Float) : List Char :=
  Style.brief.write (significant 6) x

/-- A whole number in decimal. -/
def intText (n : Int) : List Char :=
  if n < 0 then '-' :: Nat.toDigits 10 n.natAbs else Nat.toDigits 10 n.natAbs

end RomanCalc.Number
