import Mathlib.Algebra.Group.Nat.Defs
import RomanCalc.Number.Reader
import RomanCalc.Proofs.Text.Ascii

/-!
# The characters of written numbers

In every style a number is one word of basic characters (`isPlain_write`): any terminal shows it,
and it stays in its line. A whole number is written up to a power of ten (`writeInt_eq`).
-/

namespace RomanCalc.Number

open Text

theorem isPlain_toDigits (n : Nat) : IsPlain (Nat.toDigits 10 n) :=
  isPlain_of_digits fun _ => Nat.isDigit_of_mem_toDigits (by decide) (by decide)

theorem isPlain_zeros (n : Nat) : IsPlain (List.replicate n '0') := by
  intro c hc
  rw [List.eq_of_mem_replicate hc]
  decide

theorem isPlain_digits (d : Decimal) : IsPlain d.digits := by
  unfold Decimal.digits
  split
  · decide
  · refine (isPlain_toDigits d.coefficient).of_subset fun c hc => ?_
    have hkept := (List.dropWhile_sublist _).subset (List.mem_reverse.mp hc)
    exact List.mem_reverse.mp hkept

theorem isPlain_fractionText (keepsPoint : Bool) {digits : List Char} (h : IsPlain digits) :
    IsPlain (fractionText keepsPoint digits) := by
  unfold fractionText
  split
  · cases keepsPoint <;> decide
  · exact isPlain_cons.mpr ⟨by decide, h⟩

theorem isPlain_plainText (keepsPoint : Bool) {digits : List Char} (h : IsPlain digits)
    (leading : Int) : IsPlain (plainText keepsPoint digits leading) := by
  unfold plainText
  split
  · exact isPlain_cons.mpr ⟨by decide, isPlain_cons.mpr ⟨by decide,
      isPlain_append.mpr ⟨isPlain_zeros _, h⟩⟩⟩
  · have hfront := h.of_subset (List.take_subset (leading.toNat + 1) digits)
    have hbehind := h.of_subset (List.drop_subset (leading.toNat + 1) digits)
    simp only [isPlain_append]
    exact ⟨⟨hfront, isPlain_zeros _⟩, isPlain_fractionText keepsPoint hbehind⟩

theorem isPlain_exponentText (power : Int) : IsPlain (exponentText power) := by
  have hsign : IsPlain [if power < 0 then '-' else '+'] := by
    split <;> decide
  unfold exponentText
  exact isPlain_append.mpr ⟨isPlain_append.mpr ⟨hsign, isPlain_zeros _⟩, isPlain_toDigits _⟩

theorem isPlain_scientificText {digits : List Char} (h : IsPlain digits) (leading : Int) :
    IsPlain (scientificText digits leading) := by
  have hfront := h.of_subset (List.take_subset 1 digits)
  have hbehind := isPlain_fractionText false (h.of_subset (List.drop_subset 1 digits))
  unfold scientificText
  exact isPlain_append.mpr ⟨isPlain_append.mpr ⟨hfront, hbehind⟩,
    isPlain_cons.mpr ⟨by decide, isPlain_exponentText leading⟩⟩

theorem isPlain_decimalText (style : Style) (d : Decimal) : IsPlain (style.decimalText d) := by
  have hdigits := isPlain_digits d
  have hbody : ∀ leading : Int, IsPlain
      (if -4 ≤ leading ∧ leading < style.plainBelow then
        plainText style.keepsPoint d.digits leading else scientificText d.digits leading) := by
    intro leading
    split
    · exact isPlain_plainText _ hdigits leading
    · exact isPlain_scientificText hdigits leading
  unfold Style.decimalText
  simp only
  split
  · exact isPlain_cons.mpr ⟨by decide, hbody _⟩
  · exact hbody _

/-- Whatever the style, and whether it is a number or not, a double is written as one word of basic
characters. -/
theorem isPlain_write (style : Style) (round : Bool → Nat → Int → Decimal) (x : Float) :
    IsPlain (style.write round x) := by
  unfold Style.write
  split
  · decide
  · split <;> decide
  · exact isPlain_decimalText style _

/-- The numbers with more digits than are converted start at a power of ten. -/
theorem writeInt_eq (n : Int) :
    writeInt n =
      if n.natAbs < 10 ^ maxIntegerDigits then .ok (intText n) else .error .tooLong := by
  have hcount : digitCount n.natAbs ≤ maxIntegerDigits ↔ n.natAbs < 10 ^ maxIntegerDigits :=
    Nat.length_toDigits_le_iff (by decide) (by decide)
  unfold writeInt
  by_cases h : n.natAbs < 10 ^ maxIntegerDigits
  · rw [if_pos h, if_neg (Nat.not_lt.mpr (hcount.mpr h))]
  · rw [if_neg h, if_pos (Nat.lt_of_not_le (mt hcount.mp h))]

theorem lt_pow_maxIntegerDigits {n k : Nat} (h : n < 10 ^ k) (hk : k ≤ maxIntegerDigits) :
    n < 10 ^ maxIntegerDigits :=
  Nat.lt_of_lt_of_le h (Nat.pow_le_pow_right (by decide) hk)

end RomanCalc.Number
