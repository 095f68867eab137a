import RomanCalc.Expression.Binary
import RomanCalc.Proofs.Expression.Structure
import RomanCalc.Proofs.Number.Literal
import RomanCalc.Proofs.Text.Collapse

/-!
# Expressions that are split

An expression that is split is one operation: a literal, an operator and a literal without a sign,
with a space or none at either side of the operator (`Operation`). Cutting a text at its last
operator leaves no operator behind the cut and something before it
(`cutAtLastOperator?_eq_some_iff`), so the text of an operation is cut into its parts
(`Operation.cut_text`), and a collapsed text that is split is the text of an operation
(`exists_operation`). There is only one such operation (`split_by_operation`).
-/

namespace RomanCalc.Expression

open Number (Literal Signed)

/-- The cut at the last operator that does not start the text. -/
theorem cutAtLastOperator?_eq_some_iff {text before behind : List Char} {c : Char} :
    cutAtLastOperator? text = some (before, c, behind) ↔
      text = before ++ c :: behind ∧ before ≠ [] ∧ isOperatorChar c = true ∧
        ∀ d ∈ behind, isOperatorChar d = false := by
  let p : Char → Bool := fun c => !isOperatorChar c
  constructor
  · intro h
    have hsplit : text.reverse.takeWhile p ++ text.reverse.dropWhile p = text.reverse :=
      List.takeWhile_append_dropWhile
    have hbehind : ∀ d ∈ text.reverse.takeWhile p, p d = true :=
      List.all_eq_true.mp List.all_takeWhile
    have hhead := List.head?_dropWhile_not p text.reverse
    unfold cutAtLastOperator? at h
    split at h
    · rename_i d e more hdrop
      cases h
      change text.reverse.dropWhile p = c :: e :: more at hdrop
      rw [hdrop] at hsplit hhead
      refine ⟨?_, by simp, by simpa [p] using hhead, ?_⟩
      · calc text = text.reverse.reverse := text.reverse_reverse.symm
          _ = (text.reverse.takeWhile p ++ c :: e :: more).reverse := by rw [hsplit]
          _ = (e :: more).reverse ++ c :: (text.reverse.takeWhile p).reverse := by simp
      · intro d hd
        simpa [p] using hbehind d (List.mem_reverse.mp hd)
    · cases h
  · rintro ⟨rfl, hbefore, hc, hbehind⟩
    obtain ⟨e, more, hreverse⟩ :=
      List.exists_cons_of_ne_nil (fun hnil => hbefore (List.reverse_eq_nil_iff.mp hnil))
    have htext : (before ++ c :: behind).reverse = behind.reverse ++ c :: e :: more := by
      simp [← hreverse]
    have hall : ∀ d ∈ behind.reverse, p d = true := fun d hd => by
      simp [p, hbehind d (List.mem_reverse.mp hd)]
    have hstop : ¬p c = true := by simp [p, hc]
    have htake : (before ++ c :: behind).reverse.takeWhile p = behind.reverse := by
      rw [htext, List.takeWhile_append_of_pos hall, List.takeWhile_cons_of_neg hstop,
        List.append_nil]
    have hdrop : (before ++ c :: behind).reverse.dropWhile p = c :: e :: more := by
      rw [htext, List.dropWhile_append_of_pos hall, List.dropWhile_cons_of_neg hstop]
    unfold cutAtLastOperator?
    simp only [p] at htake hdrop
    simp only [htake, hdrop]
    rw [← hreverse, List.reverse_reverse, List.reverse_reverse]

/-! ## Operands -/

/-- An operand has a value exactly where it is a literal with a finite double. -/
theorem readLiteral_eq_ok_iff {text : List Char} {value : Float} :
    readLiteral text = .ok value ↔
      ∃ n : Signed Text.isDecimalDigit, n.text = text ∧ n.value = value ∧
        n.value.isFinite = true := by
  constructor
  · intro h
    unfold readLiteral at h
    split at h
    · rename_i d hd
      obtain ⟨n, htext, rfl⟩ := Number.exists_signed hd
      simp only at h
      split at h
      · rename_i hfinite
        cases h
        exact ⟨n, htext, rfl, hfinite⟩
      · cases h
    · cases h
  · rintro ⟨n, rfl, rfl, hfinite⟩
    unfold readLiteral
    rw [Number.literal?_text (fun _ h => h)]
    exact if_pos hfinite

theorem isBlank_of_mem_signed {n : Signed Text.isDecimalDigit} {c : Char} (h : c ∈ n.text) :
    Text.isBlank c = false := by
  rcases Signed.mem_text h with rfl | h
  · decide
  · rcases Literal.mem_text h with h | rfl
    · exact Text.isBlank_of_isDecimalDigit h
    · decide

/-- A literal without an operator has no sign. -/
theorem exists_unsigned {n : Signed Text.isDecimalDigit}
    (h : ∀ c ∈ n.text, isOperatorChar c = false) : ∃ l, n = ⟨false, l⟩ := by
  obtain ⟨negative, l⟩ := n
  cases negative with
  | false => exact ⟨l, rfl⟩
  | true => cases h '-' List.mem_cons_self

theorem isOperatorChar_of_mem_literal {l : Literal Text.isDecimalDigit} {c : Char}
    (h : c ∈ l.text) : isOperatorChar c = false := by
  rcases Literal.mem_text h with hdigit | rfl
  · exact isOperatorChar_of_isDecimalDigit hdigit
  · decide

/-! ## Operations -/

/-- One operation as it is written: a literal, an operator and a literal without a sign. The flags
tell whether a space stands before the operator and whether one stands behind it. -/
structure Operation where
  left : Signed Text.isDecimalDigit
  spaceBefore : Bool
  op : Operator
  spaceBehind : Bool
  right : Literal Text.isDecimalDigit

namespace Operation

def text (o : Operation) : List Char :=
  o.left.text ++ Text.gap o.spaceBefore ++ o.op.char :: (Text.gap o.spaceBehind ++ o.right.text)

/-- The operands and the operator of an operation. -/
def parts (o : Operation) : Binary :=
  ⟨o.left.value, [o.op.char], o.right.value, o.text, none⟩

/-- Both literals of the operation have finite doubles. -/
structure Finite (o : Operation) : Prop where
  left : o.left.value.isFinite = true
  right : o.right.value.isFinite = true

variable (o : Operation)

theorem text_ne_nil : o.text ≠ [] := by
  simp [text]

/-- The last operator of the text is the one between the literals. -/
theorem cut_text : cutAtLastOperator? o.text =
    some (o.left.text ++ Text.gap o.spaceBefore, o.op.char,
      Text.gap o.spaceBehind ++ o.right.text) := by
  refine cutAtLastOperator?_eq_some_iff.mpr ⟨rfl, ?_, isOperatorChar_char o.op, ?_⟩
  · simp [o.left.text_ne_nil]
  · intro c hc
    rcases List.mem_append.mp hc with hgap | hright
    · rw [Bool.eq_false_iff]
      intro hop
      have hblank := isBlank_of_isOperatorChar hop
      rw [Text.isBlank_of_mem_gap hgap] at hblank
      cases hblank
    · exact isOperatorChar_of_mem_literal hright

theorem trim_before : Text.trim (o.left.text ++ Text.gap o.spaceBefore) = o.left.text := by
  have hnone : ∀ c ∈ ([] : List Char), Text.isBlank c = true := by simp
  exact Text.trim_around hnone (fun _ => Text.isBlank_of_mem_gap) o.left.text_ne_nil
    fun _ => isBlank_of_mem_signed

theorem trim_behind : Text.trim (Text.gap o.spaceBehind ++ o.right.text) = o.right.text := by
  have hnone : ∀ c ∈ ([] : List Char), Text.isBlank c = true := by simp
  rw [← List.append_nil (_ ++ _)]
  exact Text.trim_around (fun _ => Text.isBlank_of_mem_gap) hnone o.right.text_ne_nil
    fun _ hc => isBlank_of_mem_signed (n := ⟨false, o.right⟩) hc

theorem removeBlanks_text :
    Text.removeBlanks o.text = o.left.text ++ o.op.char :: o.right.text := by
  have hword : ∀ n : Signed Text.isDecimalDigit, Text.removeBlanks n.text = n.text := fun n =>
    Text.removeBlanks_eq_self_iff.mpr fun _ => isBlank_of_mem_signed
  have hgap : ∀ space, Text.removeBlanks (Text.gap space) = [] := by decide
  have hop : Text.isBlank o.op.char = false :=
    isBlank_of_isOperatorChar (isOperatorChar_char o.op)
  have hright : Text.removeBlanks o.right.text = o.right.text := hword ⟨false, o.right⟩
  simp [text, Text.removeBlanks_cons_of_not_blank hop, hword, hgap, hright]

/-- A text writes one operation at most. -/
theorem text_injective {o o' : Operation} (h : o.text = o'.text) : o = o' := by
  have hcut := o.cut_text
  rw [h, o'.cut_text, Option.some.injEq, Prod.mk.injEq, Prod.mk.injEq] at hcut
  obtain ⟨hbefore, hop, hbehind⟩ := hcut
  have hleft : o'.left = o.left := by
    apply Signed.text_injective (by decide) (by decide)
    rw [← o'.trim_before, hbefore, o.trim_before]
  have hright : o'.right = o.right := by
    apply Literal.text_injective (by decide)
    rw [← o'.trim_behind, hbehind, o.trim_behind]
  rw [hleft, List.append_cancel_left_eq] at hbefore
  rw [hright, List.append_cancel_right_eq] at hbehind
  have hoperator : o'.op = o.op := by
    apply Option.some.inj
    rw [← Operator.ofChar?_char, hop, Operator.ofChar?_char]
  have hspaceBefore : o'.spaceBefore = o.spaceBefore := Text.gap_injective hbefore
  have hspaceBehind : o'.spaceBehind = o.spaceBehind := Text.gap_injective hbehind
  cases o
  cases o'
  simp_all

end Operation

/-! ## Splitting -/

variable {limit : Int} {e : List Char} {parts : Binary}

theorem splitText_text {o : Operation} (h : o.Finite) : splitText o.text = .ok o.parts := by
  have hleft : readLiteral o.left.text = .ok o.left.value :=
    readLiteral_eq_ok_iff.mpr ⟨o.left, rfl, rfl, h.left⟩
  have hright : readLiteral o.right.text = .ok o.right.value :=
    readLiteral_eq_ok_iff.mpr ⟨⟨false, o.right⟩, rfl, rfl, h.right⟩
  unfold splitText
  rw [o.cut_text]
  simp only [o.trim_before, o.trim_behind]
  rw [if_neg (by simp [o.left.text_ne_nil, o.right.text_ne_nil]), hleft, hright]
  rfl

/-- A text is split at an operator into two texts that are literals once they are trimmed. The
second has no operator in it, so it has no sign. -/
theorem exists_operands {clean : List Char} (h : splitText clean = .ok parts) :
    ∃ before behind, ∃ left : Signed Text.isDecimalDigit, ∃ op : Operator,
      ∃ right : Literal Text.isDecimalDigit,
      clean = before ++ op.char :: behind ∧ Text.trim before = left.text ∧
        Text.trim behind = right.text ∧ left.value.isFinite = true ∧
        right.value.isFinite = true ∧ parts = ⟨left.value, [op.char], right.value, clean, none⟩ := by
  unfold splitText at h
  split at h
  · cases h
  · rename_i before c behind hcut
    obtain ⟨hclean, -, hc, hbehind⟩ := cutAtLastOperator?_eq_some_iff.mp hcut
    obtain ⟨op, rfl⟩ := exists_eq_char hc
    simp only at h
    split at h
    · cases h
    · obtain ⟨a, ha, h⟩ := bind_eq_ok_iff.mp h
      obtain ⟨b, hb, h⟩ := bind_eq_ok_iff.mp h
      cases h
      obtain ⟨left, hleft, rfl, hleftFinite⟩ := readLiteral_eq_ok_iff.mp ha
      obtain ⟨right, hright, rfl, hrightFinite⟩ := readLiteral_eq_ok_iff.mp hb
      have hplain : ∀ d ∈ right.text, isOperatorChar d = false := by
        intro d hd
        rw [hright] at hd
        exact hbehind d (Text.mem_of_mem_trim hd)
      obtain ⟨right, rfl⟩ := exists_unsigned hplain
      exact ⟨before, behind, left, op, right, hclean, hleft.symm, hright.symm, hleftFinite,
        hrightFinite, rfl⟩

/-- A collapsed text that is split is the text of an operation. What trimming takes from the
operands stands at an end of the text, where there is nothing to take, or beside the operator. -/
theorem exists_operation {clean : List Char} (hclean : Text.Collapsed clean)
    (h : splitText clean = .ok parts) :
    ∃ o : Operation, o.Finite ∧ o.text = clean ∧ parts = o.parts := by
  obtain ⟨before, behind, left, op, right, hcut, hleft, hright, hleftFinite, hrightFinite, rfl⟩ :=
    exists_operands h
  obtain ⟨front, blanks, hfront, hblanks, hbefore⟩ := Text.exists_trim before
  obtain ⟨blanks', back, hblanks', hback, hbehind⟩ := Text.exists_trim behind
  rw [hleft] at hbefore
  rw [hright] at hbehind
  have hwords : Text.Collapsed
      (front ++ (left.text ++ blanks ++ op.char :: (blanks' ++ right.text)) ++ back) := by
    rw [hcut, hbefore, hbehind] at hclean
    simpa using hclean
  obtain ⟨rfl, rfl⟩ := hwords.no_blanks_around hfront hback
  rw [List.nil_append, List.append_nil] at hwords
  obtain ⟨spaceBefore, rfl⟩ := hwords.exists_gap hblanks
  have hword : Text.Collapsed
      (left.text ++ Text.gap spaceBefore ++ [op.char] ++ blanks' ++ right.text) := by
    simpa using hwords
  obtain ⟨spaceBehind, rfl⟩ := hword.exists_gap hblanks'
  let o : Operation := ⟨left, spaceBefore, op, spaceBehind, right⟩
  have htext : o.text = clean := by
    rw [hcut, hbefore, hbehind]
    simp [o, Operation.text]
  refine ⟨o, ⟨hleftFinite, hrightFinite⟩, htext, ?_⟩
  rw [← htext]
  rfl

/-- An expression within the limit is split where its collapsed text is that of an operation, and
into the parts of that operation. -/
theorem split_eq_ok_iff : split limit (.text e) = .ok parts ↔
    (e.length : Int) ≤ limit ∧
      ∃ o : Operation, o.Finite ∧ o.text = Text.collapse e ∧ parts = o.parts := by
  constructor
  · intro h
    obtain ⟨s, hs, h⟩ := bind_eq_ok_iff.mp h
    obtain ⟨hs, hlimit⟩ := textWithin_eq_ok_iff.mp hs
    cases hs
    simp only at h
    split at h
    · cases h
    · exact ⟨hlimit, exists_operation (Text.collapsed_collapse e) h⟩
  · rintro ⟨hlimit, o, hfinite, htext, rfl⟩
    refine bind_eq_ok_iff.mpr ⟨e, textWithin_eq_ok_iff.mpr ⟨rfl, hlimit⟩, ?_⟩
    have hne : ¬o.text.isEmpty = true := by
      simpa using o.text_ne_nil
    simp only [← htext]
    rw [if_neg hne]
    exact splitText_text hfinite

/-- A collapsed expression is split like the expression itself. -/
theorem split_collapse (hlimit : (e.length : Int) ≤ limit) :
    split limit (.text (Text.collapse e)) = split limit (.text e) := by
  have hcollapsed : ((Text.collapse e).length : Int) ≤ limit := by
    have hlength := Text.length_collapse_le e
    omega
  have hwithin : textWithin limit (.text e) = .ok e := textWithin_eq_ok_iff.mpr ⟨rfl, hlimit⟩
  have hwithin' : textWithin limit (.text (Text.collapse e)) = .ok (Text.collapse e) :=
    textWithin_eq_ok_iff.mpr ⟨rfl, hcollapsed⟩
  unfold split
  rw [hwithin, hwithin']
  simp only [bind, Except.bind, Text.collapse_collapse]

/-- An expression that is split is a literal, an operator and a literal without a sign once its
blanks are gone. -/
theorem operation_of_split (h : split limit (.text e) = .ok parts) :
    ∃ (left : Signed Text.isDecimalDigit) (op : Operator) (right : Literal Text.isDecimalDigit),
      Text.removeBlanks e = left.text ++ op.char :: right.text ∧ (e.length : Int) ≤ limit ∧
        parts = ⟨left.value, [op.char], right.value, Text.collapse e, none⟩ ∧
        left.value.isFinite = true ∧ right.value.isFinite = true := by
  obtain ⟨hlimit, o, hfinite, htext, rfl⟩ := split_eq_ok_iff.mp h
  refine ⟨o.left, o.op, o.right, ?_, hlimit, ?_, hfinite.left, hfinite.right⟩
  · rw [← Text.removeBlanks_collapse, ← htext, o.removeBlanks_text]
  · rw [← htext]
    rfl

/-- A literal, an operator and a literal without a sign are split again, provided that both literals
have finite doubles. -/
theorem split_joined_iff {left : Signed Text.isDecimalDigit} {op : Operator}
    {right : Literal Text.isDecimalDigit} (hlimit : (e.length : Int) ≤ limit)
    (htext : e = left.text ++ op.char :: right.text) :
    split limit (.text e) = .ok parts ↔ (left.value.isFinite = true ∧ right.value.isFinite = true) ∧
      parts = ⟨left.value, [op.char], right.value, e, none⟩ := by
  let o : Operation := ⟨left, false, op, false, right⟩
  have ho : o.text = e := by
    simp [o, Operation.text, Text.gap, htext]
  have hblank : ∀ c ∈ e, Text.isBlank c = false := by
    rw [← Text.removeBlanks_eq_self_iff, ← ho, o.removeBlanks_text]
    simp [o, Operation.text, Text.gap]
  have hcollapse : Text.collapse e = e := (Text.collapsed_of_no_blanks hblank).collapse_eq
  rw [split_eq_ok_iff, hcollapse, ← ho]
  constructor
  · rintro ⟨-, other, hfinite, hother, rfl⟩
    obtain rfl := Operation.text_injective hother
    exact ⟨⟨hfinite.left, hfinite.right⟩, rfl⟩
  · rintro ⟨⟨hleft, hright⟩, rfl⟩
    exact ⟨ho ▸ hlimit, o, ⟨hleft, hright⟩, rfl, rfl⟩

theorem split_of_operation {left : Signed Text.isDecimalDigit} {op : Operator}
    {right : Literal Text.isDecimalDigit} (hlimit : (e.length : Int) ≤ limit)
    (htext : e = left.text ++ op.char :: right.text) (hleft : left.value.isFinite = true)
    (hright : right.value.isFinite = true) :
    split limit (.text e) = .ok ⟨left.value, [op.char], right.value, e, none⟩ :=
  (split_joined_iff hlimit htext).mpr ⟨⟨hleft, hright⟩, rfl⟩

/-- An expression within the limit is split exactly if it is one operation once its blanks are
collapsed. The operation is then the only one that is written so, it gives the parts, and the
collapsed text is split like the expression. -/
theorem split_by_operation (hlimit : (e.length : Int) ≤ limit) :
    ((∃ parts, split limit (.text e) = .ok parts) ↔
      ∃ o : Operation, o.Finite ∧ o.text = Text.collapse e) ∧
    (∀ o : Operation, o.Finite → o.text = Text.collapse e →
      (∀ other : Operation, other.text = Text.collapse e → other = o) ∧
        split limit (.text e) =
          .ok ⟨o.left.value, [o.op.char], o.right.value, Text.collapse e, none⟩) ∧
    split limit (.text (Text.collapse e)) = split limit (.text e) := by
  refine ⟨?_, ?_, split_collapse hlimit⟩
  · constructor
    · rintro ⟨parts, hparts⟩
      obtain ⟨-, o, hfinite, htext, -⟩ := split_eq_ok_iff.mp hparts
      exact ⟨o, hfinite, htext⟩
    · rintro ⟨o, hfinite, htext⟩
      exact ⟨o.parts, split_eq_ok_iff.mpr ⟨hlimit, o, hfinite, htext, rfl⟩⟩
  · intro o hfinite htext
    constructor
    · intro other hother
      exact Operation.text_injective (hother.trans htext.symm)
    · rw [← htext]
      exact split_eq_ok_iff.mpr ⟨hlimit, o, hfinite, htext, rfl⟩

theorem split_by_operation_quotient :
    split 12 (.text "  -7  /\t٣.".toList) =
      .ok ⟨-7.0, ['/'], 3.0, "-7 / ٣.".toList, none⟩ ∧
    ¬(∃ o : Operation, o.Finite ∧ o.text = Text.collapse "2 - -3".toList) := by
  constructor
  · have hlimit : ("  -7  /\t٣.".toList.length : Int) ≤ 12 := by decide
    have hcollapse : Text.collapse "  -7  /\t٣.".toList = "-7 / ٣.".toList := rfl
    have hsplit := ((split_by_operation hlimit).2.1
      ⟨⟨true, ⟨['7'], none, List.all_eq_true.mp rfl, by decide⟩⟩, true, .divide, true,
        ⟨['٣'], some [], List.all_eq_true.mp rfl, by decide⟩⟩
      ⟨by decide +kernel, by decide +kernel⟩ hcollapse.symm).2
    rw [hsplit, hcollapse]
    rfl
  · have hlimit : ("2 - -3".toList.length : Int) ≤ 12 := by decide
    have hsplit : (split 12 (.text "2 - -3".toList)).isOk = false := by decide +kernel
    intro hoperation
    obtain ⟨parts, hparts⟩ := (split_by_operation hlimit).1.mpr hoperation
    rw [hparts] at hsplit
    cases hsplit

end RomanCalc.Expression
