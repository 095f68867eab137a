import RomanCalc.Numeral.Decode

/-!
# The standard form of numerals

A numeral writes its decimal digits from the thousands down, each with the letters of its place
(`standard`). The grammar takes a text apart along these places: the well-formed numerals are the
standard forms of the numbers below five thousand (`exists_standard`, `isWellFormed_standard`), and
the value of a standard form is its number (`lettersValue_standard`).
-/

namespace RomanCalc.Numeral

def hundreds : Place := ⟨.C, .D, .M⟩

def tens : Place := ⟨.X, .L, .C⟩

def ones : Place := ⟨.I, .V, .X⟩

/-- The letters that write a digit at a place. -/
def Place.digit (place : Place) : Nat → List Letter
  | 4 => [place.unit, place.five]
  | 9 => [place.unit, place.ten]
  | d => List.replicate (d / 5) place.five ++ List.replicate (d % 5) place.unit

/-- The letters of a number below five thousand. -/
def standard (n : Nat) : List Letter :=
  List.replicate (n / 1000) .M ++ (hundreds.digit (n / 100 % 10) ++
    (tens.digit (n / 10 % 10) ++ ones.digit (n % 10)))

theorem Place.digit_of_mod_le {place : Place} {d : Nat} (h : d % 5 ≤ 3) :
    place.digit d =
      List.replicate (d / 5) place.five ++ List.replicate (d % 5) place.unit := by
  unfold Place.digit
  split
  · omega
  · omega
  · rfl

/-- The digits of a number are those that its standard form writes. -/
theorem standard_digits {m a b c : Nat} (ha : a < 10) (hb : b < 10) (hc : c < 10) :
    standard (1000 * m + 100 * a + 10 * b + c) =
      List.replicate m .M ++ (hundreds.digit a ++ (tens.digit b ++ ones.digit c)) := by
  unfold standard
  rw [show (1000 * m + 100 * a + 10 * b + c) / 1000 = m by omega,
    show (1000 * m + 100 * a + 10 * b + c) / 100 % 10 = a by omega,
    show (1000 * m + 100 * a + 10 * b + c) / 10 % 10 = b by omega,
    show (1000 * m + 100 * a + 10 * b + c) % 10 = c by omega]

/-! ## Taking a numeral apart -/

theorem exists_copies (letter : Letter) (count : Nat) (letters : List Letter) :
    ∃ k ≤ count, letters = List.replicate k letter ++ dropCopies letter count letters := by
  induction count generalizing letters with
  | zero => exact ⟨0, Nat.le_refl 0, rfl⟩
  | succ count ih =>
    cases letters with
    | nil => exact ⟨0, Nat.zero_le _, rfl⟩
    | cons l letters =>
      by_cases hl : l = letter
      · subst hl
        obtain ⟨k, hk, hletters⟩ := ih letters
        refine ⟨k + 1, Nat.succ_le_succ hk, ?_⟩
        rw [dropCopies, if_pos rfl, List.replicate_succ, List.cons_append, ← hletters]
      · exact ⟨0, Nat.zero_le _, by rw [dropCopies, if_neg hl]; rfl⟩

theorem Place.exists_additive (place : Place) (letters : List Letter) :
    ∃ d < 10, letters = place.digit d ++ place.dropAdditive letters := by
  obtain ⟨k, hk, hfive⟩ := exists_copies place.five 1 letters
  obtain ⟨j, hj, hunit⟩ := exists_copies place.unit 3 (dropCopies place.five 1 letters)
  refine ⟨5 * k + j, by omega, ?_⟩
  have hmod : (5 * k + j) % 5 = j := by omega
  have hdiv : (5 * k + j) / 5 = k := by omega
  rw [Place.digit_of_mod_le (by omega), hmod, hdiv, List.append_assoc, Place.dropAdditive, ← hunit,
    ← hfive]

/-- What the grammar takes off at a place is a digit of that place. -/
theorem Place.exists_digit (place : Place) (letters : List Letter) :
    ∃ d < 10, letters = place.digit d ++ place.drop letters := by
  rcases letters with _ | ⟨a, _ | ⟨b, letters⟩⟩
  · exact place.exists_additive []
  · exact place.exists_additive [a]
  · by_cases h : a = place.unit ∧ (b = place.ten ∨ b = place.five)
    · rw [Place.drop, if_pos h]
      obtain ⟨rfl, rfl | rfl⟩ := h
      · exact ⟨9, by omega, rfl⟩
      · exact ⟨4, by omega, rfl⟩
    · rw [Place.drop, if_neg h]
      exact place.exists_additive (a :: b :: letters)

/-- Every well-formed numeral is the standard form of a number below five thousand. -/
theorem exists_standard {letters : List Letter} (h : isWellFormed letters = true) :
    ∃ n, 0 < n ∧ n < 5000 ∧ letters = standard n := by
  simp only [isWellFormed, Bool.and_eq_true, Bool.not_eq_true', List.isEmpty_eq_false_iff,
    List.isEmpty_iff] at h
  obtain ⟨hne, hrest⟩ := h
  obtain ⟨m, hm, hthousands⟩ := exists_copies .M 4 letters
  obtain ⟨a, ha, hhundreds⟩ := hundreds.exists_digit (dropCopies .M 4 letters)
  obtain ⟨b, hb, htens⟩ := tens.exists_digit (hundreds.drop (dropCopies .M 4 letters))
  obtain ⟨c, hc, hones⟩ := ones.exists_digit (tens.drop (hundreds.drop (dropCopies .M 4 letters)))
  have hend : ones.drop (tens.drop (hundreds.drop (dropCopies .M 4 letters))) = [] := hrest
  have hstandard : letters = standard (1000 * m + 100 * a + 10 * b + c) := by
    rw [hend, List.append_nil] at hones
    rw [standard_digits ha hb hc, ← hones, ← htens, ← hhundreds, ← hthousands]
  refine ⟨_, ?_, by omega, hstandard⟩
  apply Nat.pos_of_ne_zero
  intro hzero
  rw [hzero] at hstandard
  exact hne hstandard

/-! ## The value of a standard form -/

/-- The weight of the first letter, which decides whether a letter before it is subtracted. -/
def headWeight (letters : List Letter) : Nat :=
  (letters.head?.map Letter.weight).getD 0

@[simp] theorem headWeight_cons (l : Letter) (letters : List Letter) :
    headWeight (l :: letters) = l.weight := rfl

/-- A letter that no heavier one follows is added. -/
theorem lettersValue_cons {l : Letter} {letters : List Letter}
    (h : headWeight letters ≤ l.weight) :
    lettersValue (l :: letters) = l.weight + lettersValue letters := by
  cases letters with
  | nil => simp [lettersValue]
  | cons b letters =>
    rw [headWeight_cons] at h
    rw [lettersValue, if_neg (Nat.not_lt.mpr h)]

/-- A letter before a heavier one is subtracted from it. -/
theorem lettersValue_cons_cons {a b : Letter} (letters : List Letter) (h : a.weight < b.weight) :
    lettersValue (a :: b :: letters) = b.weight - a.weight + lettersValue letters := by
  rw [lettersValue, if_pos h]

theorem headWeight_replicate_append_le (l : Letter) (k : Nat) (letters : List Letter) :
    headWeight (List.replicate k l ++ letters) ≤ max l.weight (headWeight letters) := by
  cases k with
  | zero => exact Nat.le_max_right _ _
  | succ k => exact Nat.le_max_left _ _

theorem lettersValue_replicate_append {l : Letter} {letters : List Letter}
    (h : headWeight letters ≤ l.weight) (k : Nat) :
    lettersValue (List.replicate k l ++ letters) = k * l.weight + lettersValue letters := by
  induction k with
  | zero => simp
  | succ k ih =>
    have hhead : headWeight (List.replicate k l ++ letters) ≤ l.weight :=
      Nat.le_trans (headWeight_replicate_append_le l k letters) (Nat.max_le.mpr ⟨Nat.le_refl _, h⟩)
    rw [List.replicate_succ, List.cons_append, lettersValue_cons hhead, ih, Nat.succ_mul]
    omega

/-- The letters of a place weigh one, five and ten units. -/
structure Place.Decimal (place : Place) : Prop where
  five : place.five.weight = 5 * place.unit.weight
  ten : place.ten.weight = 10 * place.unit.weight
  unit : 0 < place.unit.weight

theorem hundreds_decimal : hundreds.Decimal := by constructor <;> decide
theorem tens_decimal : tens.Decimal := by constructor <;> decide
theorem ones_decimal : ones.Decimal := by constructor <;> decide

theorem Place.Decimal.headWeight_digit_append_le {place : Place} (hp : place.Decimal) (d : Nat)
    (letters : List Letter) :
    headWeight (place.digit d ++ letters) ≤ max place.five.weight (headWeight letters) := by
  have hunit : place.unit.weight ≤ place.five.weight := by
    have := hp.five
    omega
  unfold Place.digit
  split
  · exact Nat.le_trans hunit (Nat.le_max_left _ _)
  · exact Nat.le_trans hunit (Nat.le_max_left _ _)
  · rw [List.append_assoc]
    refine Nat.le_trans (headWeight_replicate_append_le _ _ _) ?_
    have := headWeight_replicate_append_le place.unit (d % 5) letters
    omega

/-- A digit at a place counts as many units as it says. -/
theorem Place.Decimal.lettersValue_digit_append {place : Place} (hp : place.Decimal) (d : Nat)
    {letters : List Letter} (h : headWeight letters ≤ place.unit.weight) :
    lettersValue (place.digit d ++ letters) =
      d * place.unit.weight + lettersValue letters := by
  obtain ⟨hfive, hten, hunit⟩ := hp
  unfold Place.digit
  split
  · change lettersValue (place.unit :: place.five :: letters) = _
    rw [lettersValue_cons_cons letters (by omega)]
    omega
  · change lettersValue (place.unit :: place.ten :: letters) = _
    rw [lettersValue_cons_cons letters (by omega)]
    omega
  · have hhead := headWeight_replicate_append_le place.unit (d % 5) letters
    rw [List.append_assoc, lettersValue_replicate_append (by omega),
      lettersValue_replicate_append h, hfive, ← Nat.add_assoc, ← Nat.mul_assoc, ← Nat.add_mul,
      Nat.mul_comm (d / 5) 5, Nat.div_add_mod]

/-! Behind each digit of a standard form stand letters that are lighter than its unit. -/

theorem headWeight_ones_le (n : Nat) : headWeight (ones.digit (n % 10)) ≤ 5 := by
  rw [← List.append_nil (ones.digit (n % 10))]
  exact ones_decimal.headWeight_digit_append_le _ []

theorem headWeight_tens_le (n : Nat) :
    headWeight (tens.digit (n / 10 % 10) ++ ones.digit (n % 10)) ≤ 50 :=
  Nat.le_trans (tens_decimal.headWeight_digit_append_le _ _)
    (Nat.max_le.mpr ⟨by decide, Nat.le_trans (headWeight_ones_le n) (by decide)⟩)

theorem headWeight_hundreds_le (n : Nat) :
    headWeight (hundreds.digit (n / 100 % 10) ++ (tens.digit (n / 10 % 10) ++
      ones.digit (n % 10))) ≤ 500 :=
  Nat.le_trans (hundreds_decimal.headWeight_digit_append_le _ _)
    (Nat.max_le.mpr ⟨by decide, Nat.le_trans (headWeight_tens_le n) (by decide)⟩)

/-- The value of the standard form of a number is the number. -/
theorem lettersValue_standard (n : Nat) : lettersValue (standard n) = n := by
  have hones : lettersValue (ones.digit (n % 10)) = n % 10 * 1 + 0 := by
    rw [← List.append_nil (ones.digit (n % 10))]
    exact ones_decimal.lettersValue_digit_append _ (Nat.zero_le _)
  have htens := tens_decimal.lettersValue_digit_append (n / 10 % 10)
    (Nat.le_trans (headWeight_ones_le n) (by decide))
  have hhundreds := hundreds_decimal.lettersValue_digit_append (n / 100 % 10)
    (Nat.le_trans (headWeight_tens_le n) (by decide))
  have hthousands := lettersValue_replicate_append (l := .M)
    (Nat.le_trans (headWeight_hundreds_le n) (by decide)) (n / 1000)
  rw [standard, hthousands, hhundreds, htens, hones]
  change n / 1000 * 1000 + (n / 100 % 10 * 100 + (n / 10 % 10 * 10 + (n % 10 * 1 + 0))) = n
  omega

/-- A well-formed numeral is worth something, and less than five thousand. -/
theorem lettersValue_bounds {letters : List Letter} (h : isWellFormed letters = true) :
    0 < lettersValue letters ∧ lettersValue letters < 5000 := by
  obtain ⟨n, hpos, hlt, rfl⟩ := exists_standard h
  rw [lettersValue_standard]
  exact ⟨hpos, hlt⟩

/-! ## Standard forms are well formed -/

theorem ne_of_headWeight_lt {l a : Letter} {letters : List Letter}
    (h : headWeight (a :: letters) < l.weight) : a ≠ l := by
  rintro rfl
  exact Nat.lt_irrefl _ h

theorem dropCopies_replicate_append {l : Letter} {letters : List Letter}
    (h : headWeight letters < l.weight) {count k : Nat} (hk : k ≤ count) :
    dropCopies l count (List.replicate k l ++ letters) = letters := by
  induction k generalizing count with
  | zero =>
    rcases count with _ | count
    · rfl
    · cases letters with
      | nil => rfl
      | cons a letters =>
        change dropCopies l (count + 1) (a :: letters) = _
        rw [dropCopies, if_neg (ne_of_headWeight_lt h)]
  | succ k ih =>
    obtain ⟨count, rfl⟩ := Nat.exists_eq_add_of_le' (Nat.le_trans (Nat.succ_pos k) hk)
    rw [List.replicate_succ, List.cons_append, dropCopies, if_pos rfl, ih (by omega)]

theorem Place.Decimal.dropAdditive_append {place : Place} (hp : place.Decimal)
    {letters : List Letter} (h : headWeight letters < place.unit.weight) {fives units : Nat}
    (hfives : fives ≤ 1) (hunits : units ≤ 3) :
    place.dropAdditive (List.replicate fives place.five ++
      (List.replicate units place.unit ++ letters)) = letters := by
  have hlighter : headWeight (List.replicate units place.unit ++ letters) < place.five.weight := by
    have hhead := headWeight_replicate_append_le place.unit units letters
    have hfive := hp.five
    omega
  rw [dropAdditive, dropCopies_replicate_append hlighter hfives,
    dropCopies_replicate_append h hunits]

/-- Where no unit stands before a heavier letter, a place takes off an additive digit. -/
theorem Place.Decimal.drop_of_not_subtractive {place : Place} (hp : place.Decimal)
    {letters : List Letter}
    (h : ∀ a more, letters = a :: more → a = place.unit → headWeight more ≤ place.unit.weight) :
    place.drop letters = place.dropAdditive letters := by
  obtain ⟨hfive, hten, hunit⟩ := hp
  rcases letters with _ | ⟨a, _ | ⟨b, letters⟩⟩
  · rfl
  · rfl
  · rw [drop, if_neg]
    rintro ⟨ha, hb⟩
    have hhead := h a (b :: letters) rfl ha
    rw [headWeight_cons] at hhead
    rcases hb with rfl | rfl <;> omega

/-- In an additive digit no unit stands before a heavier letter. -/
theorem Place.Decimal.headWeight_tail_le {place : Place} (hp : place.Decimal) {fives units : Nat}
    {letters more : List Letter} (h : headWeight letters < place.unit.weight)
    (hcons : List.replicate fives place.five ++ (List.replicate units place.unit ++ letters) =
      place.unit :: more) : headWeight more ≤ place.unit.weight := by
  obtain ⟨hfive, -, hunit⟩ := hp
  rcases fives with _ | fives
  · rcases units with _ | units
    · rw [List.replicate_zero, List.replicate_zero, List.nil_append, List.nil_append] at hcons
      rw [hcons] at h
      exact absurd rfl (ne_of_headWeight_lt h)
    · obtain ⟨-, rfl⟩ := List.cons.inj hcons
      exact Nat.le_trans (headWeight_replicate_append_le place.unit units letters)
        (Nat.max_le.mpr ⟨Nat.le_refl _, Nat.le_of_lt h⟩)
  · obtain ⟨hhead, -⟩ := List.cons.inj hcons
    rw [hhead] at hfive
    omega

/-- A place takes off its own digit. -/
theorem Place.Decimal.drop_digit_append {place : Place} (hp : place.Decimal) {d : Nat}
    (hd : d < 10) {letters : List Letter} (h : headWeight letters < place.unit.weight) :
    place.drop (place.digit d ++ letters) = letters := by
  unfold digit
  split
  · exact if_pos ⟨rfl, .inr rfl⟩
  · exact if_pos ⟨rfl, .inl rfl⟩
  · next hfour hnine =>
    have hne : d ≠ 4 ∧ d ≠ 9 := ⟨hfour, hnine⟩
    rw [List.append_assoc, hp.drop_of_not_subtractive,
      hp.dropAdditive_append h (by omega) (by omega)]
    rintro a more hcons rfl
    exact hp.headWeight_tail_le h hcons

/-- The standard form of a number below five thousand is well formed. -/
theorem isWellFormed_standard {n : Nat} (hpos : 0 < n) (hn : n < 5000) :
    isWellFormed (standard n) = true := by
  have hne : standard n ≠ [] := by
    intro hnil
    have hvalue := lettersValue_standard n
    rw [hnil, lettersValue] at hvalue
    omega
  have hdigits : ones.drop (tens.drop (hundreds.drop (dropCopies .M 4 (standard n)))) = [] := by
    rw [standard,
      dropCopies_replicate_append (Nat.lt_of_le_of_lt (headWeight_hundreds_le n) (by decide))
        (by omega),
      hundreds_decimal.drop_digit_append (by omega)
        (Nat.lt_of_le_of_lt (headWeight_tens_le n) (by decide)),
      tens_decimal.drop_digit_append (by omega)
        (Nat.lt_of_le_of_lt (headWeight_ones_le n) (by decide)),
      ← List.append_nil (ones.digit (n % 10)), ones_decimal.drop_digit_append (by omega) (by decide)]
  simp only [isWellFormed, Bool.and_eq_true, Bool.not_eq_true', List.isEmpty_eq_false_iff,
    List.isEmpty_iff]
  exact ⟨hne, hdigits⟩

end RomanCalc.Numeral
