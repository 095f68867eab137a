import Mathlib.Data.List.DropRight

/-!
# The end of a text

The longest row of characters of a kind at the end of a text (`List.rtakeWhile`): what stands before
it ends in no such character (`exists_append_rtakeWhile`). Where characters that are not of the kind
are left out, the row becomes longer exactly if they interrupted it (`rtakeWhile_filter`).
-/

namespace RomanCalc.Text

variable {p : Char → Bool} {text : List Char}

/-- A text is the row at its end behind a text that ends in no character of the kind. -/
theorem exists_append_rtakeWhile (p : Char → Bool) (text : List Char) :
    ∃ front, text = front ++ text.rtakeWhile p ∧
      ∀ c, front.getLast? = some c → p c = false := by
  refine ⟨text.rdropWhile p, List.rdropWhile_append_rtakeWhile.symm, fun c hc => ?_⟩
  obtain ⟨front, hfront⟩ := List.getLast?_eq_some_iff.mp hc
  have hlast := List.rdropWhile_last_not p text (by simp [hfront])
  simpa [hfront] using hlast

theorem rtakeWhile_eq_nil_iff :
    text.rtakeWhile p = [] ↔ ∀ c, text.getLast? = some c → p c = false := by
  obtain rfl | ⟨front, c, rfl⟩ := text.eq_nil_or_concat'
  · simp
  · cases hc : p c <;> simp [hc]

/-- Characters of the kind behind a text make the row at its end longer. -/
theorem rtakeWhile_append (text : List Char) {s : List Char} (hs : ∀ c ∈ s, p c = true) :
    (text ++ s).rtakeWhile p = text.rtakeWhile p ++ s := by
  have hreverse : ∀ c ∈ s.reverse, p c = true := fun c hc => hs c (List.mem_reverse.mp hc)
  rw [List.rtakeWhile, List.rtakeWhile, List.reverse_append,
    List.takeWhile_append_of_pos hreverse, List.reverse_append, List.reverse_reverse]

/-! ## Characters that are left out -/

variable {stray : Char → Bool}

/-- A text ends in stray characters that stand behind a character of a kind. -/
def EndsInStrays (p stray : Char → Bool) (text : List Char) : Prop :=
  ∃ before c strays, text = before ++ c :: strays ∧ p c = true ∧ strays ≠ [] ∧
    ∀ d ∈ strays, stray d = true

/-- Stray characters stand behind a character of a kind, and nothing but more of the kind behind
them. -/
def Interrupted (p stray : Char → Bool) (text : List Char) : Prop :=
  ∃ front back, text = front ++ back ∧ EndsInStrays p stray front ∧ ∀ d ∈ back, p d = true

theorem filter_eq_self_of_kind (hkind : ∀ c, p c = true → stray c = false) {s : List Char}
    (hs : ∀ c ∈ s, p c = true) : (s.filter fun c => !stray c) = s :=
  List.filter_eq_self.mpr fun c hc => by simp [hkind c (hs c hc)]

/-- Strays are not of the kind. -/
theorem EndsInStrays.last (hkind : ∀ c, p c = true → stray c = false)
    (h : EndsInStrays p stray text) : ∀ c, text.getLast? = some c → p c = false := by
  obtain ⟨before, c, strays, rfl, -, hne, hstrays⟩ := h
  intro d hd
  rw [List.append_cons, List.getLast?_append_of_ne_nil _ hne] at hd
  rw [Bool.eq_false_iff]
  intro hp
  have hnot := hkind d hp
  rw [hstrays d (List.mem_of_getLast? hd)] at hnot
  cases hnot

/-- What is interrupted is the row at the end. -/
theorem interrupted_iff (hkind : ∀ c, p c = true → stray c = false) {front row : List Char}
    (hlast : ∀ c, front.getLast? = some c → p c = false) (hrow : ∀ c ∈ row, p c = true) :
    Interrupted p stray (front ++ row) ↔ EndsInStrays p stray front := by
  constructor
  · rintro ⟨before, back, htext, hstrays, hback⟩
    have hrows : row = back := by
      have hends := congrArg (List.rtakeWhile p) htext
      rwa [rtakeWhile_append _ hrow, rtakeWhile_append _ hback, rtakeWhile_eq_nil_iff.mpr hlast,
        rtakeWhile_eq_nil_iff.mpr (hstrays.last hkind)] at hends
    subst hrows
    rwa [List.append_cancel_right htext]
  · intro hstrays
    exact ⟨front, row, rfl, hstrays, hrow⟩

theorem filter_append_strays (before : List Char) {c : Char} (hc : stray c = false)
    {strays : List Char} (hstrays : ∀ d ∈ strays, stray d = true) :
    ((before ++ c :: strays).filter fun d => !stray d) =
      (before.filter fun d => !stray d) ++ [c] := by
  have hnone : (strays.filter fun d => !stray d) = [] :=
    List.filter_eq_nil_iff.mpr fun d hd => by simp [hstrays d hd]
  rw [List.filter_append, List.filter_cons_of_pos (by simp [hc]), hnone]

/-- A text that ends in no character of the kind ends in none without its stray characters either,
unless some of them stand behind one. -/
theorem rtakeWhile_filter_eq_nil_iff (hkind : ∀ c, p c = true → stray c = false)
    {front : List Char} (hlast : ∀ c, front.getLast? = some c → p c = false) :
    (front.filter fun c => !stray c).rtakeWhile p = [] ↔ ¬EndsInStrays p stray front := by
  constructor
  · rintro hnil ⟨before, c, strays, rfl, hc, -, hstrays⟩
    rw [filter_append_strays before (hkind c hc) hstrays,
      List.rtakeWhile_concat_pos _ _ _ hc] at hnil
    exact List.append_ne_nil_of_right_ne_nil _ (List.cons_ne_nil c []) hnil
  · intro hnone
    by_contra hne
    obtain ⟨kept, hsplit, hkept⟩ := exists_append_rtakeWhile stray front
    have hstrays : ∀ d ∈ front.rtakeWhile stray, stray d = true :=
      fun _ => List.mem_rtakeWhile_imp
    generalize front.rtakeWhile stray = strays at hsplit hstrays
    subst hsplit
    obtain rfl | ⟨before, c, rfl⟩ := kept.eq_nil_or_concat'
    · have hfilter : (strays.filter fun d => !stray d) = [] :=
        List.filter_eq_nil_iff.mpr fun d hd => by simp [hstrays d hd]
      rw [List.nil_append, hfilter] at hne
      exact hne rfl
    · -- the last character that is no stray ends the text without them
      rw [← List.append_cons] at hne hnone hlast
      have hc : p c = true := by
        by_contra hc
        rw [filter_append_strays before (hkept c (by simp)) hstrays,
          List.rtakeWhile_concat_neg _ _ _ hc] at hne
        exact hne rfl
      refine hnone ⟨before, c, strays, rfl, hc, ?_, hstrays⟩
      rintro rfl
      rw [hlast c (by simp)] at hc
      cases hc

/-- Without the stray characters the row at the end goes on in front of them, if they interrupted
it. -/
theorem rtakeWhile_filter (hkind : ∀ c, p c = true → stray c = false) (text : List Char) :
    ∃ more, (text.filter fun c => !stray c).rtakeWhile p = more ++ text.rtakeWhile p ∧
      (more = [] ↔ ¬Interrupted p stray text) := by
  obtain ⟨front, hsplit, hlast⟩ := exists_append_rtakeWhile p text
  have hrow : ∀ c ∈ text.rtakeWhile p, p c = true := fun _ => List.mem_rtakeWhile_imp
  refine ⟨(front.filter fun c => !stray c).rtakeWhile p, ?_, ?_⟩
  · conv_lhs => rw [hsplit]
    rw [List.filter_append, filter_eq_self_of_kind hkind hrow, rtakeWhile_append _ hrow]
  · rw [rtakeWhile_filter_eq_nil_iff hkind hlast, hsplit, interrupted_iff hkind hlast hrow]

end RomanCalc.Text
