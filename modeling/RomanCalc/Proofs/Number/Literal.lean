import RomanCalc.Number.Literal
import RomanCalc.Proofs.Number.Double

/-!
# The texts of literals

A literal is given by its digits before and behind the point, for digits of any kind that is
asked for (`Literal`), and by a minus sign in front (`Signed`). Reading is the inverse of writing:
the text of a literal is read as its decimal (`literal?_text`), and what is read at all is the
text of a literal (`exists_signed`), of one only (`Signed.text_injective`). A whole number in
decimal digits is a literal for its own double (`value_ofNat`).
-/

namespace RomanCalc.Number

/-- A literal without a sign: its digits before the point and, where there is a point, those
behind it. A point does not stand alone. -/
structure Literal (isDigit : Char → Bool) where
  whole : List Char
  places : Option (List Char)
  digits : ∀ c ∈ whole ++ places.getD [], isDigit c = true
  nonempty : whole ++ places.getD [] ≠ []

/-- A literal with a minus sign in front, or none. -/
structure Signed (isDigit : Char → Bool) where
  negative : Bool
  magnitude : Literal isDigit

variable {isDigit : Char → Bool}

namespace Literal

/-- What stands behind the whole digits. -/
def tail : Option (List Char) → List Char
  | none => []
  | some places => '.' :: places

def text (l : Literal isDigit) : List Char :=
  l.whole ++ tail l.places

/-- All digits as one number, which counts as many places down as stand behind the point. -/
def decimal (l : Literal isDigit) : Decimal :=
  ⟨false, Text.digitsValue (l.whole ++ l.places.getD []), -((l.places.getD []).length : Int)⟩

def value (l : Literal isDigit) : Float :=
  l.decimal.toFloat

end Literal

namespace Signed

def text (n : Signed isDigit) : List Char :=
  if n.negative then '-' :: n.magnitude.text else n.magnitude.text

def decimal (n : Signed isDigit) : Decimal :=
  { n.magnitude.decimal with negative := n.negative }

def value (n : Signed isDigit) : Float :=
  n.decimal.toFloat

end Signed

/-! ## The characters of a literal -/

theorem Literal.mem_text {l : Literal isDigit} {c : Char} (h : c ∈ l.text) :
    isDigit c = true ∨ c = '.' := by
  obtain ⟨whole, places, digits, nonempty⟩ := l
  rcases List.mem_append.mp h with hwhole | htail
  · exact .inl (digits c (List.mem_append_left _ hwhole))
  · cases places with
    | none => cases htail
    | some places =>
      rcases List.mem_cons.mp htail with rfl | hplaces
      · exact .inr rfl
      · exact .inl (digits c (List.mem_append_right _ hplaces))

theorem Signed.mem_text {n : Signed isDigit} {c : Char} (h : c ∈ n.text) :
    c = '-' ∨ c ∈ n.magnitude.text := by
  obtain ⟨negative, l⟩ := n
  cases negative with
  | false => exact .inr h
  | true => exact List.mem_cons.mp h

theorem Literal.text_ne_nil (l : Literal isDigit) : l.text ≠ [] := by
  obtain ⟨whole, places, digits, nonempty⟩ := l
  cases places with
  | none => simpa [text, tail] using nonempty
  | some places => simp [text, tail]

theorem Signed.text_ne_nil (n : Signed isDigit) : n.text ≠ [] := by
  obtain ⟨negative, l⟩ := n
  cases negative with
  | false => exact l.text_ne_nil
  | true => exact List.cons_ne_nil _ _

/-- A literal whose digits are all of another kind, as a literal of that kind. -/
def Literal.withDigits {isOther : Char → Bool} (l : Literal isDigit)
    (h : ∀ c ∈ l.whole ++ l.places.getD [], isOther c = true) : Literal isOther :=
  ⟨l.whole, l.places, h, l.nonempty⟩

def Signed.withDigits {isOther : Char → Bool} (n : Signed isDigit)
    (h : ∀ c ∈ n.magnitude.whole ++ n.magnitude.places.getD [], isOther c = true) :
    Signed isOther :=
  ⟨n.negative, n.magnitude.withDigits h⟩

theorem Literal.mem_text_of_mem_digits {l : Literal isDigit} {c : Char}
    (h : c ∈ l.whole ++ l.places.getD []) : c ∈ l.text := by
  obtain ⟨whole, places, digits, nonempty⟩ := l
  cases places with
  | none => simpa [text, tail] using h
  | some places =>
    rcases List.mem_append.mp h with h | h
    · exact List.mem_append_left _ h
    · exact List.mem_append_right _ (List.mem_cons_of_mem _ h)

theorem Signed.mem_text_of_mem_magnitude {n : Signed isDigit} {c : Char}
    (h : c ∈ n.magnitude.text) : c ∈ n.text := by
  obtain ⟨negative, l⟩ := n
  cases negative with
  | false => exact h
  | true => exact List.mem_cons_of_mem _ h

/-! ## A text writes one literal -/

/-- Where the point is no digit, it divides the digits of a literal. -/
theorem Literal.span_text {p : Char → Bool} (hdigit : ∀ c, isDigit c = true → p c = true)
    (hpoint : p '.' = false) (l : Literal isDigit) :
    l.text.takeWhile p = l.whole ∧ l.text.dropWhile p = tail l.places := by
  obtain ⟨whole, places, digits, nonempty⟩ := l
  have hwhole : ∀ c ∈ whole, p c = true := fun c hc =>
    hdigit c (digits c (List.mem_append_left _ hc))
  rw [text, List.takeWhile_append_of_pos hwhole, List.dropWhile_append_of_pos hwhole]
  cases places <;> simp [tail, hpoint]

theorem Literal.minus_not_mem (hminus : isDigit '-' = false) (l : Literal isDigit) :
    '-' ∉ l.text := by
  intro h
  rcases Literal.mem_text h with hdigit | hpoint
  · rw [hdigit] at hminus
    cases hminus
  · exact absurd hpoint (by decide)

theorem Literal.tail_injective {a b : Option (List Char)} (h : tail a = tail b) : a = b := by
  cases a <;> cases b <;> simp_all [tail]

theorem Literal.text_injective (hpoint : isDigit '.' = false) {l m : Literal isDigit}
    (h : l.text = m.text) : l = m := by
  obtain ⟨hwhole, htail⟩ := l.span_text (fun _ hc => hc) hpoint
  obtain ⟨hwhole', htail'⟩ := m.span_text (fun _ hc => hc) hpoint
  rw [h] at hwhole htail
  have hplaces : l.places = m.places := tail_injective (htail.symm.trans htail')
  cases l
  cases m
  simp_all

theorem Signed.text_injective (hpoint : isDigit '.' = false) (hminus : isDigit '-' = false)
    {n m : Signed isDigit} (h : n.text = m.text) : n = m := by
  obtain ⟨negative, l⟩ := n
  obtain ⟨negative', l'⟩ := m
  match negative, negative', h with
  | false, false, h =>
    have hmagnitude : l = l' := Literal.text_injective hpoint h
    rw [hmagnitude]
  | true, true, h =>
    have hmagnitude : l = l' := Literal.text_injective hpoint (List.cons.inj h).2
    rw [hmagnitude]
  | false, true, h =>
    change l.text = '-' :: l'.text at h
    exact absurd (by simp [h]) (l.minus_not_mem hminus)
  | true, false, h =>
    change '-' :: l.text = l'.text at h
    exact absurd (by simp [← h]) (l'.minus_not_mem hminus)

/-! ## Digits -/

/-- The basic digits are decimal digits. -/
theorem digitValue?_of_isDigit {c : Char} (h : c.isDigit = true) :
    Text.digitValue? c = some (c.toNat - 48) := by
  simp only [Char.isDigit, Bool.and_eq_true, decide_eq_true_eq, UInt32.le_iff_toNat_le] at h
  have hfirst : (decide (48 ≤ c.toNat) && decide (c.toNat < 48 + 10)) = true := by
    change 48 ≤ c.toNat ∧ c.toNat ≤ 57 at h
    simp only [Bool.and_eq_true, decide_eq_true_eq]
    omega
  have htable : Text.decimalZeros = 48 :: Text.decimalZeros.tail := rfl
  unfold Text.digitValue?
  rw [htable]
  simp only [List.find?_cons, hfirst, Option.map_some]

theorem isDecimalDigit_of_isDigit {c : Char} (h : c.isDigit = true) :
    Text.isDecimalDigit c = true := by
  simp [Text.isDecimalDigit, digitValue?_of_isDigit h]

/-- Basic digits write the number that they are written for. -/
theorem digitsValue_eq_ofDigitChars {digits : List Char} (h : ∀ c ∈ digits, c.isDigit = true) :
    Text.digitsValue digits = Nat.ofDigitChars 10 digits 0 := by
  suffices ∀ n, digits.foldl (fun n c => 10 * n + (Text.digitValue? c).getD 0) n =
      Nat.ofDigitChars 10 digits n from this 0
  induction digits with
  | nil => exact fun n => Nat.ofDigitChars_nil.symm
  | cons c digits ih =>
    rw [List.forall_mem_cons] at h
    intro n
    rw [List.foldl_cons, Nat.ofDigitChars_cons, digitValue?_of_isDigit h.1, ih h.2]
    rfl

/-! ## Reading the text of a literal -/

theorem unsignedLiteral?_text (hdigit : ∀ c, isDigit c = true → Text.isDecimalDigit c = true)
    (l : Literal isDigit) : unsignedLiteral? l.text = some l.decimal := by
  obtain ⟨htake, hdrop⟩ := l.span_text hdigit (by decide)
  obtain ⟨whole, places, digits, nonempty⟩ := l
  unfold unsignedLiteral? Literal.decimal
  rw [htake, hdrop]
  cases places with
  | none =>
    have hne : whole ≠ [] := by simpa using nonempty
    simp [Literal.tail, hne]
  | some places =>
    have hall : places.all Text.isDecimalDigit = true :=
      List.all_eq_true.mpr fun c hc => hdigit c (digits c (List.mem_append_right _ hc))
    have hne : ¬(whole = [] ∧ places = []) := by simpa using nonempty
    simp [Literal.tail, hall, hne]

/-- What is written for a literal is read as its decimal. -/
theorem literal?_text (hdigit : ∀ c, isDigit c = true → Text.isDecimalDigit c = true)
    (n : Signed isDigit) : literal? n.text = some n.decimal := by
  obtain ⟨negative, l⟩ := n
  cases negative with
  | true =>
    change (unsignedLiteral? l.text).map _ = _
    rw [unsignedLiteral?_text hdigit]
    rfl
  | false =>
    have hminus : isDigit '-' = false := by
      rw [Bool.eq_false_iff]
      intro h
      exact absurd (hdigit '-' h) (by decide)
    change literal? l.text = some l.decimal
    rw [← unsignedLiteral?_text hdigit]
    unfold literal?
    split
    · rename_i heq
      exact absurd (by simp [heq]) (l.minus_not_mem hminus)
    · rfl

/-! ## What is read is the text of a literal -/

theorem exists_literal {text : List Char} {d : Decimal} (h : unsignedLiteral? text = some d) :
    ∃ l : Literal Text.isDecimalDigit, l.text = text ∧ l.decimal = d := by
  have hsplit : text.takeWhile Text.isDecimalDigit ++ text.dropWhile Text.isDecimalDigit = text :=
    List.takeWhile_append_dropWhile
  have hwhole : ∀ c ∈ text.takeWhile Text.isDecimalDigit, Text.isDecimalDigit c = true :=
    List.all_eq_true.mp List.all_takeWhile
  unfold unsignedLiteral? at h
  simp only at h
  split at h
  · rename_i hdrop
    rw [hdrop, List.append_nil] at hsplit
    split at h
    · cases h
    · rename_i hne
      cases h
      refine ⟨⟨text.takeWhile Text.isDecimalDigit, none, ?_, ?_⟩, ?_, ?_⟩
      · simpa using hwhole
      · simpa using hne
      · simpa [Literal.text, Literal.tail] using hsplit
      · simp [Literal.decimal]
  · rename_i c places hdrop
    rw [hdrop] at hsplit
    split at h
    · rename_i hpoint
      obtain ⟨rfl, hplaces, hne⟩ := hpoint
      cases h
      refine ⟨⟨text.takeWhile Text.isDecimalDigit, some places, ?_, ?_⟩, hsplit, rfl⟩
      · intro c hc
        rcases List.mem_append.mp hc with hc | hc
        · exact hwhole c hc
        · exact List.all_eq_true.mp hplaces c hc
      · simpa using hne
    · cases h

/-- Whatever is read as a literal is the text of one. -/
theorem exists_signed {text : List Char} {d : Decimal} (h : literal? text = some d) :
    ∃ n : Signed Text.isDecimalDigit, n.text = text ∧ n.decimal = d := by
  unfold literal? at h
  split at h
  · rename_i rest
    obtain ⟨magnitude, hmagnitude, rfl⟩ := Option.map_eq_some_iff.mp h
    obtain ⟨l, rfl, rfl⟩ := exists_literal hmagnitude
    exact ⟨⟨true, l⟩, rfl, rfl⟩
  · obtain ⟨l, rfl, rfl⟩ := exists_literal h
    exact ⟨⟨false, l⟩, rfl, rfl⟩

/-! ## Whole numbers as literals -/

/-- A whole number in decimal digits. -/
def Literal.ofNat (n : Nat) : Literal Char.isDigit where
  whole := Nat.toDigits 10 n
  places := none
  digits := by
    intro c hc
    rw [Option.getD_none, List.append_nil] at hc
    exact Nat.isDigit_of_mem_toDigits (by decide) (by decide) hc
  nonempty := by simp [Nat.toDigits_ne_nil]

@[simp] theorem Literal.text_ofNat (n : Nat) : (Literal.ofNat n).text = Nat.toDigits 10 n :=
  List.append_nil _

theorem Literal.decimal_ofNat (n : Nat) : (Literal.ofNat n).decimal = ⟨false, n, 0⟩ := by
  have hdigits : ∀ c ∈ Nat.toDigits 10 n, c.isDigit = true := fun c hc =>
    Nat.isDigit_of_mem_toDigits (by decide) (by decide) hc
  change Decimal.mk false (Text.digitsValue (Nat.toDigits 10 n ++ [])) 0 = _
  rw [List.append_nil, digitsValue_eq_ofDigitChars hdigits, Nat.ofDigitChars_ten_toDigits]

/-- A whole number in decimal digits stands for its own double. -/
theorem Literal.value_ofNat {n : Nat} (h : n < 2 ^ 53) :
    (Literal.ofNat n).value = Float.ofNat n := by
  have hcount : digitCount n ≤ 16 :=
    (Nat.length_toDigits_le_iff (by decide) (by decide)).mpr (Nat.lt_trans h (by decide))
  have hsmall : ¬(400 : Int) < Decimal.leading ⟨false, n, 0⟩ := by
    unfold Decimal.leading
    simp only
    omega
  have hlarge : ¬Decimal.leading ⟨false, n, 0⟩ < -400 := by
    unfold Decimal.leading
    simp only
    omega
  unfold Literal.value
  rw [Literal.decimal_ofNat]
  change Decimal.magnitude ⟨false, n, 0⟩ = _
  unfold Decimal.magnitude
  by_cases hn : n = 0
  · subst hn
    rfl
  · rw [if_neg (by simp [hn, hlarge]), if_neg hsmall]
    rfl

end RomanCalc.Number
