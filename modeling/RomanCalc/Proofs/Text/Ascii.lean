import RomanCalc.Proofs.Text.Case
import RomanCalc.Text.Ascii
import RomanCalc.Text.Blank

/-!
# Texts of basic characters

A basic terminal shows the texts of basic characters (`IsBasic`) and no others. Question marks in
place of the others make every text basic (`isBasic_replaceUnencodable`) and leave a basic text as
it is (`replaceUnencodable_of_isBasic`).
-/

namespace RomanCalc.Text

/-- All characters of a text are basic. -/
def IsBasic (text : List Char) : Prop :=
  ∀ c ∈ text, isAscii c = true

instance : DecidablePred IsBasic :=
  List.decidableBAll fun c => isAscii c = true

@[simp] theorem isBasic_nil : IsBasic [] :=
  List.forall_mem_nil _

@[simp] theorem isBasic_append {s t : List Char} : IsBasic (s ++ t) ↔ IsBasic s ∧ IsBasic t :=
  List.forall_mem_append

@[simp] theorem isBasic_flatMap {α : Type} {xs : List α} {f : α → List Char} :
    IsBasic (xs.flatMap f) ↔ ∀ x ∈ xs, IsBasic (f x) := by
  constructor
  · intro h x hx c hc
    exact h c (List.mem_flatMap_of_mem hx hc)
  · intro h c hc
    obtain ⟨x, hx, hmem⟩ := List.mem_flatMap.mp hc
    exact h x hx c hmem

theorem isBasic_replaceUnencodable (text : List Char) : IsBasic (replaceUnencodable text) := by
  intro c hc
  obtain ⟨d, -, rfl⟩ := List.mem_map.mp hc
  split
  · assumption
  · rfl

theorem replaceUnencodable_of_isBasic {text : List Char} (h : IsBasic text) :
    replaceUnencodable text = text := by
  calc replaceUnencodable text = text.map id :=
        List.map_congr_left fun c hc => if_pos (h c hc)
    _ = text := List.map_id text

/-- A character of a text with question marks is one of them or comes from the text. -/
theorem mem_of_mem_replaceUnencodable {text : List Char} {c : Char}
    (h : c ∈ replaceUnencodable text) : c = '?' ∨ c ∈ text := by
  obtain ⟨d, hd, rfl⟩ := List.mem_map.mp h
  split
  · exact .inr hd
  · exact .inl rfl

/-! ## Words -/

/-- A word of basic characters, without blanks. -/
def IsPlain (text : List Char) : Prop :=
  ∀ c ∈ text, isAscii c = true ∧ isBlank c = false

instance : DecidablePred IsPlain :=
  List.decidableBAll fun c => isAscii c = true ∧ isBlank c = false

@[simp] theorem isPlain_cons {c : Char} {text : List Char} :
    IsPlain (c :: text) ↔ (isAscii c = true ∧ isBlank c = false) ∧ IsPlain text :=
  List.forall_mem_cons

@[simp] theorem isPlain_append {s t : List Char} : IsPlain (s ++ t) ↔ IsPlain s ∧ IsPlain t :=
  List.forall_mem_append

theorem IsPlain.isBasic {text : List Char} (h : IsPlain text) : IsBasic text :=
  fun c hc => (h c hc).1

theorem IsPlain.of_subset {s t : List Char} (h : IsPlain t) (hsub : s ⊆ t) : IsPlain s :=
  fun c hc => h c (hsub hc)

theorem isPlain_of_digits {text : List Char} (h : ∀ c ∈ text, c.isDigit = true) :
    IsPlain text := by
  intro c hc
  have hdigit := h c hc
  have hbasic : c.toNat < 0x80 := by
    have hnine : c.toNat ≤ '9'.toNat := by
      simp only [Char.isDigit, Bool.and_eq_true, decide_eq_true_eq] at hdigit
      exact hdigit.2
    exact Nat.lt_of_le_of_lt hnine (by decide)
  revert hdigit
  exact forall_basic hbasic (by decide +kernel)

end RomanCalc.Text
