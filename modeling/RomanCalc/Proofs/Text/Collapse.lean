import Mathlib.Data.List.Chain
import RomanCalc.Proofs.Text.Blank

/-!
# Collapsed texts

A collapsed text has no blank at either end and single spaces between its words (`Collapsed`).
Collapsing makes every text so, and changes none that already is (`collapsed_collapse`,
`Collapsed.collapse_eq`). Wherever such a text is cut, the blanks at the cut are one space or none
(`Collapsed.exists_gap`).
-/

namespace RomanCalc.Text

/-- A text whose only blanks are single spaces between its words. -/
structure Collapsed (s : List Char) : Prop where
  head : ∀ c, s.head? = some c → isBlank c = false
  last : ∀ c, s.getLast? = some c → isBlank c = false
  apart : s.IsChain fun c d => isBlank c = true → isBlank d = false
  space : ∀ c ∈ s, isBlank c = true → c = ' '

/-- What may stand between two words that a text has side by side: one space or nothing. -/
def gap (space : Bool) : List Char :=
  if space then [' '] else []

theorem isBlank_of_mem_gap {space : Bool} {c : Char} (h : c ∈ gap space) : isBlank c = true := by
  cases space with
  | false => cases h
  | true =>
    rw [List.mem_singleton.mp h]
    decide

theorem gap_injective {a b : Bool} (h : gap a = gap b) : a = b := by
  revert a b
  decide

/-! ## What collapsing writes -/

/-- Behind a blank nothing is written before the next word. -/
theorem head?_squeeze {s : List Char} {c : Char} (h : (squeeze true s).head? = some c) :
    isBlank c = false := by
  induction s with
  | nil => cases h
  | cons d s ih =>
    by_cases hd : isBlank d = true
    · rw [squeeze, if_pos hd, if_pos rfl] at h
      exact ih h
    · rw [squeeze, if_neg hd] at h
      cases h
      simpa using hd

theorem apart_squeeze (afterBlank : Bool) (s : List Char) :
    (squeeze afterBlank s).IsChain fun c d => isBlank c = true → isBlank d = false := by
  induction s generalizing afterBlank with
  | nil => exact List.isChain_nil
  | cons c s ih =>
    by_cases hc : isBlank c = true
    · rw [squeeze, if_pos hc]
      cases afterBlank with
      | true => exact ih true
      | false => exact List.isChain_cons.mpr ⟨fun d hd _ => head?_squeeze hd, ih true⟩
    · rw [squeeze, if_neg hc]
      exact List.isChain_cons.mpr ⟨fun d _ h => absurd h hc, ih false⟩

theorem eq_space_of_mem_squeeze {afterBlank : Bool} {s : List Char} {c : Char}
    (h : c ∈ squeeze afterBlank s) (hc : isBlank c = true) : c = ' ' := by
  induction s generalizing afterBlank with
  | nil => cases h
  | cons d s ih =>
    by_cases hd : isBlank d = true
    · rw [squeeze, if_pos hd] at h
      cases afterBlank with
      | true => exact ih h
      | false =>
        rcases List.mem_cons.mp h with rfl | h
        · rfl
        · exact ih h
    · rw [squeeze, if_neg hd] at h
      rcases List.mem_cons.mp h with rfl | h
      · exact absurd hc hd
      · exact ih h

/-- The end of the last word is written as it is. -/
theorem squeeze_concat (afterBlank : Bool) (s : List Char) {c : Char} (h : isBlank c = false) :
    squeeze afterBlank (s ++ [c]) = squeeze afterBlank s ++ [c] := by
  induction s generalizing afterBlank with
  | nil => simp [squeeze, h]
  | cons d s ih =>
    rw [List.cons_append, squeeze, squeeze]
    by_cases hd : isBlank d = true
    · cases afterBlank <;> simp [hd, ih]
    · simp [hd, ih]

theorem length_squeeze_le (afterBlank : Bool) (s : List Char) :
    (squeeze afterBlank s).length ≤ s.length := by
  induction s generalizing afterBlank with
  | nil => exact Nat.le_refl 0
  | cons c s ih =>
    have htrue := ih true
    have hfalse := ih false
    rw [squeeze]
    split
    · split
      · exact Nat.le_succ_of_le htrue
      · exact Nat.succ_le_succ htrue
    · exact Nat.succ_le_succ hfalse

/-- Collapsing makes no text longer. -/
theorem length_collapse_le (s : List Char) : (collapse s).length ≤ s.length := by
  obtain ⟨blanks, -, hs⟩ := exists_trimEnd s
  calc (collapse s).length
      ≤ (trimEnd s).length := length_squeeze_le true (trimEnd s)
    _ ≤ (trimEnd s ++ blanks).length := by simp
    _ = s.length := by rw [← hs]

/-- What collapsing writes is collapsed. -/
theorem collapsed_collapse (s : List Char) : Collapsed (collapse s) where
  head _ h := head?_squeeze h
  apart := apart_squeeze true (trimEnd s)
  space _ h hc := eq_space_of_mem_squeeze h hc
  last := by
    intro c hc
    rcases List.eq_nil_or_concat (trimEnd s) with hnil | ⟨front, d, hend⟩
    · rw [collapse, hnil] at hc
      cases hc
    · rw [List.concat_eq_append] at hend
      have hd : isBlank d = false := by
        apply getLast?_trimEnd (s := s)
        rw [hend, List.getLast?_concat]
      rw [collapse, hend, squeeze_concat true front hd, List.getLast?_concat] at hc
      cases hc
      exact hd

/-! ## Texts that are collapsed already -/

/-- Spaces that stand alone are kept, unless one stands in front and a blank was read before. -/
theorem squeeze_eq_self {afterBlank : Bool} {s : List Char}
    (hhead : afterBlank = true → ∀ c, s.head? = some c → isBlank c = false)
    (hapart : s.IsChain fun c d => isBlank c = true → isBlank d = false)
    (hspace : ∀ c ∈ s, isBlank c = true → c = ' ') : squeeze afterBlank s = s := by
  induction s generalizing afterBlank with
  | nil => rfl
  | cons c s ih =>
    obtain ⟨hnext, hapart⟩ := List.isChain_cons.mp hapart
    rw [List.forall_mem_cons] at hspace
    rw [squeeze]
    by_cases hc : isBlank c = true
    · have hfirst : afterBlank = false := by
        rw [Bool.eq_false_iff]
        intro hafter
        rw [hhead hafter c rfl] at hc
        cases hc
      have hrest : squeeze true s = s := ih (fun _ d hd => hnext d hd hc) hapart hspace.2
      rw [if_pos hc, hfirst, if_neg Bool.false_ne_true, hrest, ← hspace.1 hc]
    · rw [if_neg hc, ih (by simp) hapart hspace.2]

theorem Collapsed.collapse_eq {s : List Char} (h : Collapsed s) : collapse s = s := by
  rw [collapse, trimEnd_eq_self h.last]
  exact squeeze_eq_self (fun _ => h.head) h.apart h.space

@[simp] theorem collapse_collapse (s : List Char) : collapse (collapse s) = collapse s :=
  (collapsed_collapse s).collapse_eq

theorem collapsed_of_no_blanks {s : List Char} (h : ∀ c ∈ s, isBlank c = false) :
    Collapsed s where
  head c hc := h c (List.mem_of_mem_head? hc)
  last c hc := h c (List.mem_of_getLast? hc)
  apart := by
    induction s with
    | nil => exact List.isChain_nil
    | cons c s ih =>
      rw [List.forall_mem_cons] at h
      exact List.isChain_cons.mpr ⟨fun d _ hc => by simp [h.1] at hc, ih h.2⟩
  space c hc hblank := by
    rw [h c hc] at hblank
    cases hblank

/-! ## Cutting a collapsed text -/

variable {front blanks back : List Char}

/-- The blanks at a cut are one space or none. -/
theorem Collapsed.exists_gap (h : Collapsed (front ++ blanks ++ back))
    (hblanks : ∀ c ∈ blanks, isBlank c = true) : ∃ space, blanks = gap space := by
  have hspace : ∀ c ∈ blanks, c = ' ' := by
    intro c hc
    exact h.space c (by simp [hc]) (hblanks c hc)
  have hapart := h.apart.infix (List.infix_append front blanks back)
  match blanks, hblanks, hspace, hapart with
  | [], _, _, _ => exact ⟨false, rfl⟩
  | [c], _, hspace, _ => exact ⟨true, by rw [hspace c List.mem_cons_self]; rfl⟩
  | c :: d :: rest, hblanks, _, hapart =>
    have hd := (List.isChain_cons_cons.mp hapart).1 (hblanks c (by simp))
    rw [hblanks d (by simp)] at hd
    cases hd

/-- There are no blanks at either end. -/
theorem Collapsed.no_blanks_around {s : List Char} (h : Collapsed (front ++ s ++ back))
    (hfront : ∀ c ∈ front, isBlank c = true) (hback : ∀ c ∈ back, isBlank c = true) :
    front = [] ∧ back = [] := by
  constructor
  · cases front with
    | nil => rfl
    | cons c front =>
      have hc := h.head c rfl
      rw [hfront c List.mem_cons_self] at hc
      cases hc
  · rcases List.eq_nil_or_concat back with hnil | ⟨more, c, rfl⟩
    · exact hnil
    · rw [List.concat_eq_append] at h hback
      have hc := h.last c (by rw [← List.append_assoc, List.getLast?_concat])
      rw [hback c (by simp)] at hc
      cases hc

end RomanCalc.Text
