import RomanCalc.Text.Blank
import RomanCalc.Text.DecimalDigit

/-!
# What trimming and collapsing keep

A text loses nothing but the blanks at its ends when it is trimmed (`exists_trim`), and nothing but
blanks when it is collapsed: what is left of it without any blank is the same
(`removeBlanks_collapse`). Around a word, blanks are lost without a trace (`trim_around`).
-/

namespace RomanCalc.Text

/-! ## Trimming -/

/-- Trimming adds nothing. -/
theorem mem_of_mem_trim {c : Char} {text : List Char} (h : c ∈ trim text) : c ∈ text := by
  unfold trim trimEnd trimStart at h
  have hend := (List.dropWhile_sublist _).subset (List.mem_reverse.mp h)
  exact (List.dropWhile_sublist _).subset (List.mem_reverse.mp hend)

theorem trimStart_append {blanks : List Char} (h : ∀ c ∈ blanks, isBlank c = true)
    (s : List Char) : trimStart (blanks ++ s) = trimStart s :=
  List.dropWhile_append_of_pos h

theorem trimEnd_append {blanks : List Char} (h : ∀ c ∈ blanks, isBlank c = true)
    (s : List Char) : trimEnd (s ++ blanks) = trimEnd s := by
  rw [trimEnd, List.reverse_append, trimStart_append (by simpa using h), trimEnd]

theorem exists_trimStart (s : List Char) :
    ∃ blanks, (∀ c ∈ blanks, isBlank c = true) ∧ s = blanks ++ trimStart s :=
  ⟨s.takeWhile isBlank, List.all_eq_true.mp List.all_takeWhile,
    List.takeWhile_append_dropWhile.symm⟩

theorem exists_trimEnd (s : List Char) :
    ∃ blanks, (∀ c ∈ blanks, isBlank c = true) ∧ s = trimEnd s ++ blanks := by
  obtain ⟨blanks, hblanks, hs⟩ := exists_trimStart s.reverse
  refine ⟨blanks.reverse, by simpa using hblanks, ?_⟩
  rw [trimEnd, ← List.reverse_append, ← hs, List.reverse_reverse]

/-- A text is what is left of it when it is trimmed, with blanks at both ends. -/
theorem exists_trim (s : List Char) :
    ∃ before behind, (∀ c ∈ before, isBlank c = true) ∧ (∀ c ∈ behind, isBlank c = true) ∧
      s = before ++ trim s ++ behind := by
  obtain ⟨before, hbefore, hstart⟩ := exists_trimStart s
  obtain ⟨behind, hbehind, hend⟩ := exists_trimEnd (trimStart s)
  refine ⟨before, behind, hbefore, hbehind, ?_⟩
  rw [trim, List.append_assoc, ← hend, ← hstart]

theorem getLast?_trimEnd {s : List Char} {c : Char} (h : (trimEnd s).getLast? = some c) :
    isBlank c = false := by
  have hhead := List.head?_dropWhile_not isBlank s.reverse
  rw [trimEnd, List.getLast?_reverse, trimStart] at h
  rw [h] at hhead
  simpa using hhead

theorem trimEnd_eq_self {s : List Char} (h : ∀ c, s.getLast? = some c → isBlank c = false) :
    trimEnd s = s := by
  rcases List.eq_nil_or_concat s with rfl | ⟨front, c, rfl⟩
  · rfl
  · rw [List.concat_eq_append] at h ⊢
    have hc : isBlank c = false := h c List.getLast?_concat
    simp [trimEnd, trimStart, hc]

/-! ## Removing blanks afterwards -/

theorem removeBlanks_cons_of_blank {c : Char} (h : isBlank c = true) (s : List Char) :
    removeBlanks (c :: s) = removeBlanks s :=
  List.filter_cons_of_neg (by simp [h])

theorem removeBlanks_cons_of_not_blank {c : Char} (h : isBlank c = false) (s : List Char) :
    removeBlanks (c :: s) = c :: removeBlanks s :=
  List.filter_cons_of_pos (by simp [h])

theorem removeBlanks_of_blanks {s : List Char} (h : ∀ c ∈ s, isBlank c = true) :
    removeBlanks s = [] := by
  rw [removeBlanks, List.filter_eq_nil_iff]
  intro c hc
  simp [h c hc]

theorem removeBlanks_trimEnd (s : List Char) : removeBlanks (trimEnd s) = removeBlanks s := by
  obtain ⟨blanks, hblanks, hs⟩ := exists_trimEnd s
  calc removeBlanks (trimEnd s)
      = removeBlanks (trimEnd s ++ blanks) := by simp [removeBlanks_of_blanks hblanks]
    _ = removeBlanks s := by rw [← hs]

theorem removeBlanks_squeeze (afterBlank : Bool) (s : List Char) :
    removeBlanks (squeeze afterBlank s) = removeBlanks s := by
  have hspace : isBlank ' ' = true := by decide
  induction s generalizing afterBlank with
  | nil => rfl
  | cons c s ih =>
    unfold squeeze
    cases h : isBlank c with
    | true => cases afterBlank <;> simpa [removeBlanks, h, hspace] using ih true
    | false => simpa [removeBlanks, h] using ih false

@[simp] theorem removeBlanks_collapse (s : List Char) :
    removeBlanks (collapse s) = removeBlanks s := by
  rw [collapse, removeBlanks_squeeze, removeBlanks_trimEnd]

/-! ## Texts without blanks -/

theorem removeBlanks_eq_self_iff {s : List Char} :
    removeBlanks s = s ↔ ∀ c ∈ s, isBlank c = false := by
  simp [removeBlanks, List.filter_eq_self]

theorem trimEnd_of_no_blanks {s : List Char} (h : ∀ c ∈ s, isBlank c = false) :
    trimEnd s = s :=
  trimEnd_eq_self fun c hc => h c (List.mem_of_getLast? hc)

/-- Trimming takes the blanks around a word away. -/
theorem trim_around {before s behind : List Char} (hbefore : ∀ c ∈ before, isBlank c = true)
    (hbehind : ∀ c ∈ behind, isBlank c = true) (hne : s ≠ []) (h : ∀ c ∈ s, isBlank c = false) :
    trim (before ++ s ++ behind) = s := by
  obtain ⟨c, rest, rfl⟩ := List.exists_cons_of_ne_nil hne
  have hc : isBlank c = false := h c List.mem_cons_self
  have hstart : trimStart (c :: rest ++ behind) = c :: rest ++ behind :=
    List.dropWhile_cons_of_neg (by simp [hc])
  rw [trim, List.append_assoc, trimStart_append hbefore, hstart, trimEnd_append hbehind,
    trimEnd_of_no_blanks h]

/-- The blanks in front of a word. -/
theorem takeWhile_around {before s : List Char} (hbefore : ∀ c ∈ before, isBlank c = true)
    (hne : s ≠ []) (h : ∀ c ∈ s, isBlank c = false) (behind : List Char) :
    (before ++ (s ++ behind)).takeWhile isBlank = before := by
  obtain ⟨c, rest, rfl⟩ := List.exists_cons_of_ne_nil hne
  have hc : isBlank c = false := h c List.mem_cons_self
  rw [List.takeWhile_append_of_pos hbefore, List.cons_append,
    List.takeWhile_cons_of_neg (by simp [hc]), List.append_nil]

theorem trim_of_no_blanks {s : List Char} (hne : s ≠ []) (h : ∀ c ∈ s, isBlank c = false) :
    trim s = s := by
  calc trim s = trim ([] ++ s ++ []) := by rw [List.nil_append, List.append_nil]
    _ = s := trim_around (by simp) (by simp) hne h

/-- No digit of any script is a blank: the tables are disjoint. -/
theorem isBlank_of_isDecimalDigit {c : Char} (h : isDecimalDigit c = true) :
    isBlank c = false := by
  have htables : ∀ z ∈ decimalZeros, ∀ range ∈ blankRanges, z + 10 ≤ range.1 ∨ range.2 < z := by
    decide
  obtain ⟨n, hn⟩ := Option.isSome_iff_exists.mp h
  obtain ⟨z, hz, -⟩ := Option.map_eq_some_iff.mp hn
  have hmem : z ∈ decimalZeros := List.mem_of_find?_eq_some hz
  have hgroup : z ≤ c.toNat ∧ c.toNat < z + 10 := by simpa using List.find?_some hz
  rw [isBlank, Bool.eq_false_iff]
  intro hblank
  obtain ⟨range, hrange, hlow, hhigh⟩ := (inRanges_iff _ _).mp hblank
  have := htables z hmem range hrange
  omega

end RomanCalc.Text
