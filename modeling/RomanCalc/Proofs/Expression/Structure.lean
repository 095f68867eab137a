import RomanCalc.Expression.Structure
import RomanCalc.Keypad.Display

/-!
# Where operators may stand

The check of an expression passes exactly the texts within the limit whose operators are well
placed once the blanks are gone (`checkStructure_eq_ok_iff`). Operators stay apart where only
texts without operators are joined by them (`hasAdjacentOperators_append`).
-/

namespace RomanCalc.Expression

/-- A computation in two steps has an answer when both steps have one. -/
theorem bind_eq_ok_iff {ε α β : Type} {x : Except ε α} {f : α → Except ε β} {b : β} :
    (x >>= f) = .ok b ↔ ∃ a, x = .ok a ∧ f a = .ok b := by
  cases x with
  | error e =>
    constructor
    · intro h
      cases h
    · rintro ⟨_, h, -⟩
      cases h
  | ok a =>
    constructor
    · intro h
      exact ⟨a, rfl, h⟩
    · rintro ⟨_, h, hb⟩
      cases h
      exact hb

/-- A computation in two steps goes wrong in the first step or in the second. -/
theorem bind_eq_error_iff {ε α β : Type} {x : Except ε α} {f : α → Except ε β} {e : ε} :
    (x >>= f) = .error e ↔ x = .error e ∨ ∃ a, x = .ok a ∧ f a = .error e := by
  cases x with
  | error d =>
    constructor
    · intro h
      cases h
      exact .inl rfl
    · rintro (h | ⟨a, h, -⟩)
      · cases h
        rfl
      · cases h
  | ok a =>
    constructor
    · intro h
      exact .inr ⟨a, rfl, h⟩
    · rintro (h | ⟨b, h, hf⟩)
      · cases h
      · cases h
        exact hf

theorem map_eq_error_iff {ε α β : Type} {x : Except ε α} {f : α → β} {e : ε} :
    x.map f = .error e ↔ x = .error e := by
  cases x with
  | error d => simp [Except.map]
  | ok a => simp [Except.map]

theorem toOption_eq_some_iff {ε α : Type} {x : Except ε α} {a : α} :
    x.toOption = some a ↔ x = .ok a := by
  cases x <;> simp [Except.toOption]

theorem isSome_toOption {ε α : Type} (x : Except ε α) : x.toOption.isSome = x.isOk := by
  cases x <;> rfl

theorem toOption_bind {ε α β : Type} (x : Except ε α) (f : α → Except ε β) :
    (x >>= f).toOption = x.toOption.bind fun a => (f a).toOption := by
  cases x <;> rfl

theorem isOperatorChar_char (op : Operator) : isOperatorChar op.char = true := by
  cases op <;> rfl

theorem exists_eq_char {c : Char} (h : isOperatorChar c = true) :
    ∃ op : Operator, c = op.char := by
  obtain ⟨op, hop⟩ := Option.isSome_iff_exists.mp h
  exact ⟨op, Operator.ofChar?_eq_some_iff.mp hop⟩

/-- An operator is no part of a number. -/
theorem isOperatorChar_of_isNumberChar {c : Char} (h : Keypad.isNumberChar c = true) :
    isOperatorChar c = false := by
  rw [Bool.eq_false_iff]
  intro hop
  obtain ⟨op, rfl⟩ := exists_eq_char hop
  cases op <;> exact absurd h (by decide)

theorem isOperatorChar_of_isDecimalDigit {c : Char} (h : Text.isDecimalDigit c = true) :
    isOperatorChar c = false := by
  rw [Bool.eq_false_iff]
  intro hop
  obtain ⟨op, rfl⟩ := exists_eq_char hop
  cases op <;> exact absurd h (by decide)

theorem isBlank_of_isOperatorChar {c : Char} (h : isOperatorChar c = true) :
    Text.isBlank c = false := by
  obtain ⟨op, rfl⟩ := exists_eq_char h
  cases op <;> decide

/-- An expression whose operators are well placed: none ends it, none but a minus sign starts
it, and no two of them are neighbours. -/
structure WellPlaced (clean : List Char) : Prop where
  nonempty : clean ≠ []
  last : clean.getLast?.any isOperatorChar = false
  head : clean.head?.any isLeadingFault = false
  apart : hasAdjacentOperators clean = false

theorem textWithin_eq_ok_iff {limit : Int} {expression : Datum} {text : List Char} :
    textWithin limit expression = .ok text ↔
      expression = .text text ∧ (text.length : Int) ≤ limit := by
  cases expression with
  | text s =>
    unfold textWithin
    simp only [Datum.text.injEq]
    split
    · rename_i hlt
      constructor
      · intro h
        cases h
      · rintro ⟨rfl, hle⟩
        omega
    · rename_i hle
      constructor
      · intro h
        cases h
        exact ⟨rfl, by omega⟩
      · rintro ⟨rfl, -⟩
        rfl
  | _ => simp [textWithin]

/-- The check passes the texts within the limit whose operators are well placed, and takes their
blanks away. -/
theorem checkStructure_eq_ok_iff {limit : Int} {expression : Datum} {clean : List Char} :
    checkStructure limit expression = .ok clean ↔
      ∃ text, expression = .text text ∧ (text.length : Int) ≤ limit ∧
        clean = Text.removeBlanks text ∧ WellPlaced clean := by
  unfold checkStructure
  rw [bind_eq_ok_iff]
  constructor
  · rintro ⟨text, htext, h⟩
    obtain ⟨rfl, hlimit⟩ := textWithin_eq_ok_iff.mp htext
    simp only at h
    split at h
    · cases h
    · rename_i hempty
      split at h
      · cases h
      · rename_i hlast
        split at h
        · cases h
        · rename_i hhead
          split at h
          · cases h
          · rename_i hapart
            cases h
            refine ⟨text, rfl, hlimit, rfl, ?_, ?_, ?_, ?_⟩
            · simpa using hempty
            · exact Bool.eq_false_iff.mpr hlast
            · exact Bool.eq_false_iff.mpr hhead
            · exact Bool.eq_false_iff.mpr hapart
  · rintro ⟨text, rfl, hlimit, rfl, hplaced⟩
    refine ⟨text, textWithin_eq_ok_iff.mpr ⟨rfl, hlimit⟩, ?_⟩
    have hempty : (Text.removeBlanks text).isEmpty = false := by simpa using hplaced.nonempty
    simp only [hempty, hplaced.last, hplaced.head, hplaced.apart]
    rfl

/-! ## Operators that stay apart -/

/-- Text without operators in front does not matter. -/
theorem hasAdjacentOperators_append {s : List Char} (h : ∀ c ∈ s, isOperatorChar c = false)
    (t : List Char) : hasAdjacentOperators (s ++ t) = hasAdjacentOperators t := by
  induction s with
  | nil => rfl
  | cons c s ih =>
    rw [List.forall_mem_cons] at h
    rw [List.cons_append, hasAdjacentOperators, h.1, Bool.false_and, Bool.false_or, ih h.2]

theorem hasAdjacentOperators_cons_cons {c d : Char} (h : isOperatorChar d = false)
    (t : List Char) :
    hasAdjacentOperators (c :: d :: t) = hasAdjacentOperators (d :: t) := by
  rw [hasAdjacentOperators]
  simp [h]

end RomanCalc.Expression
