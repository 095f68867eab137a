import RomanCalc.Expression.Attempt
import RomanCalc.Proofs.Expression.Faults
import RomanCalc.Proofs.Number.Overflow

/-!
# Operands of any kind

A double is read as itself, a whole number as its double and a text as the literal in it (`Reads`);
most other data are no operands. Two kinds are found out too late to be none (`Breaks`): whole
numbers beyond all doubles, and literals with an information separator around them, which is trimmed
before they are checked but not before they are read. A calculation fails where one of its operands
breaks, and only there (`perform_by_operands`). For two doubles it has the value that the operator
has in an expression (`perform_agrees`).
-/

namespace RomanCalc.Expression

open Number (Signed leastOverflow)

/-! ## Literals with blanks around them -/

/-- Whether a character is one of the information separators, the blanks that pad no number. -/
def isSeparator (c : Char) : Bool :=
  0x1C ≤ c.toNat && c.toNat ≤ 0x1F

/-- A literal with blanks around it. -/
structure PaddedLiteral where
  before : List Char
  number : Signed Text.isDecimalDigit
  behind : List Char
  blank : ∀ c ∈ before ++ behind, Text.isBlank c = true

namespace PaddedLiteral

def text (p : PaddedLiteral) : List Char :=
  p.before ++ p.number.text ++ p.behind

/-- Whether a separator stands among the blanks. -/
def isSeparated (p : PaddedLiteral) : Bool :=
  (p.before ++ p.behind).any isSeparator

variable (p : PaddedLiteral)

theorem blank_before : ∀ c ∈ p.before, Text.isBlank c = true := fun c hc =>
  p.blank c (List.mem_append_left _ hc)

theorem blank_behind : ∀ c ∈ p.behind, Text.isBlank c = true := fun c hc =>
  p.blank c (List.mem_append_right _ hc)

theorem trim_text : Text.trim p.text = p.number.text :=
  Text.trim_around p.blank_before p.blank_behind p.number.text_ne_nil fun _ =>
    isBlank_of_mem_signed

theorem literal?_trim_text : Number.literal? (Text.trim p.text) = some p.number.decimal := by
  rw [trim_text, Number.literal?_text (fun _ h => h)]

/-- Whatever is a literal once it is trimmed is one with blanks around it. -/
theorem exists_text {s : List Char} {d : Number.Decimal}
    (h : Number.literal? (Text.trim s) = some d) : ∃ p : PaddedLiteral, p.text = s := by
  obtain ⟨n, hn, -⟩ := Number.exists_signed h
  obtain ⟨before, behind, hbefore, hbehind, hs⟩ := Text.exists_trim s
  refine ⟨⟨before, n, behind, fun c hc => ?_⟩, ?_⟩
  · exact (List.mem_append.mp hc).elim (hbefore c) (hbehind c)
  · rw [text, hn, ← hs]

/-- A blank is lost from a number unless it is a separator. -/
theorem isPadding_plainChar {c : Char} (h : Text.isBlank c = true) :
    Number.isPadding (Number.plainChar c) = !isSeparator c := by
  unfold Number.plainChar
  by_cases hbasic : c.toNat < 0x7F
  · obtain ⟨range, hrange, hlow, hhigh⟩ := (Text.inRanges_iff _ _).mp h
    have hcode : (0x09 ≤ c.toNat ∧ c.toNat ≤ 0x0D) ∨ (0x1C ≤ c.toNat ∧ c.toNat ≤ 0x20) := by
      simp only [Text.blankRanges, List.mem_cons, List.not_mem_nil, or_false] at hrange
      rcases hrange with rfl | rfl | rfl | rfl | rfl | rfl | rfl | rfl | rfl | rfl <;> omega
    have hspace : c = ' ' ↔ c.toNat = 0x20 := by
      rw [← Char.toNat_inj]
      rfl
    rw [if_pos hbasic, Bool.eq_iff_iff]
    simp only [Number.isPadding, isSeparator, hspace, Bool.or_eq_true, Bool.and_eq_true,
      Bool.not_eq_true', Bool.and_eq_false_iff, decide_eq_true_eq, decide_eq_false_iff_not]
    omega
  · have hseparator : isSeparator c = false := by
      simp only [isSeparator, Bool.and_eq_false_iff, decide_eq_false_iff_not]
      omega
    rw [if_neg hbasic, if_pos h, hseparator]
    rfl

theorem hasStrangePadding_text : hasStrangePadding p.text = p.isSeparated := by
  have htext : p.text.takeWhile Text.isBlank = p.before := by
    rw [text, List.append_assoc]
    exact Text.takeWhile_around p.blank_before p.number.text_ne_nil
      (fun _ => isBlank_of_mem_signed) _
  have hreverse : p.text.reverse.takeWhile Text.isBlank = p.behind.reverse := by
    rw [text, List.reverse_append, List.reverse_append]
    exact Text.takeWhile_around (by simpa using p.blank_behind)
      (by simpa using p.number.text_ne_nil)
      (fun _ hc => isBlank_of_mem_signed (List.mem_reverse.mp hc)) _
  unfold hasStrangePadding isSeparated
  rw [htext, hreverse, Bool.eq_iff_iff, List.any_eq_true, List.any_eq_true]
  refine exists_congr fun c => ?_
  simp only [List.mem_append, List.mem_reverse]
  refine and_congr_right fun hc => ?_
  rw [isPadding_plainChar (p.blank c (List.mem_append.mpr hc)), Bool.not_not]

end PaddedLiteral

/-! ## What is read -/

/-- What an operand is read as. -/
inductive Reads : Datum → Float → Prop
  | integer {n : Int} (h : n.natAbs < leastOverflow) : Reads (.integer n) (Float.ofInt n)
  | real (x : Float) : Reads (.real x) x
  | text {p : PaddedLiteral} (h : p.isSeparated = false) : Reads (.text p.text) p.number.value

/-- The data whose reading fails instead of finding no operand, and how it fails. -/
inductive Breaks : Datum → Failure → Prop
  | integer {n : Int} (h : leastOverflow ≤ n.natAbs) : Breaks (.integer n) .integerTooLarge
  | text {p : PaddedLiteral} (h : p.isSeparated = true) :
      Breaks (.text p.text) (.unreadable p.text)

theorem operand_integer (n : Int) :
    operand (.integer n) =
      if n.natAbs < leastOverflow then .ok (some (Float.ofInt n)) else .error .integerTooLarge := by
  by_cases h : n.natAbs < leastOverflow
  · simp only [operand, Number.ofInt?_eq, if_pos h]
  · simp only [operand, Number.ofInt?_eq, if_neg h]

theorem operand_padded (p : PaddedLiteral) :
    operand (.text p.text) =
      if p.isSeparated then .error (.unreadable p.text) else .ok (some p.number.value) := by
  simp only [operand, p.literal?_trim_text, p.hasStrangePadding_text]
  rfl

theorem operand_text_of_not_padded {s : List Char} (h : ∀ p : PaddedLiteral, p.text ≠ s) :
    operand (.text s) = .ok none := by
  cases hs : Number.literal? (Text.trim s) with
  | none => simp only [operand, hs]
  | some d =>
    obtain ⟨p, hp⟩ := PaddedLiteral.exists_text hs
    exact absurd hp (h p)

theorem operand_of_reads {d : Datum} {x : Float} (h : Reads d x) : operand d = .ok (some x) := by
  cases h with
  | integer h => rw [operand_integer, if_pos h]
  | real x => rfl
  | text h =>
    rw [operand_padded, h]
    rfl

theorem operand_of_breaks {d : Datum} {failure : Failure} (h : Breaks d failure) :
    operand d = .error failure := by
  cases h with
  | integer h => rw [operand_integer, if_neg (not_lt.mpr h)]
  | text h =>
    rw [operand_padded, h]
    rfl

/-- A datum is read as a double, breaks, or is no operand. -/
theorem operand_cases (d : Datum) :
    (∃ x, Reads d x) ∨ (∃ failure, Breaks d failure) ∨ operand d = .ok none := by
  cases d with
  | integer n =>
    by_cases h : n.natAbs < leastOverflow
    · exact .inl ⟨_, .integer h⟩
    · exact .inr (.inl ⟨_, .integer (not_lt.mp h)⟩)
  | real x => exact .inl ⟨x, .real x⟩
  | text s =>
    by_cases hs : ∃ p : PaddedLiteral, p.text = s
    · obtain ⟨p, rfl⟩ := hs
      cases h : p.isSeparated with
      | false => exact .inl ⟨_, .text h⟩
      | true => exact .inr (.inl ⟨_, .text h⟩)
    · exact .inr (.inr (operand_text_of_not_padded (not_exists.mp hs)))
  | absent => exact .inr (.inr rfl)
  | truth b => exact .inr (.inr rfl)
  | list items => exact .inr (.inr rfl)

theorem operand_eq_some_iff {d : Datum} {x : Float} : operand d = .ok (some x) ↔ Reads d x := by
  refine ⟨fun h => ?_, operand_of_reads⟩
  rcases operand_cases d with ⟨y, hreads⟩ | ⟨failure, hbreaks⟩ | hnone
  · rw [operand_of_reads hreads] at h
    cases h
    exact hreads
  · rw [operand_of_breaks hbreaks] at h
    cases h
  · rw [hnone] at h
    cases h

theorem operand_eq_error_iff {d : Datum} {failure : Failure} :
    operand d = .error failure ↔ Breaks d failure := by
  refine ⟨fun h => ?_, operand_of_breaks⟩
  rcases operand_cases d with ⟨x, hreads⟩ | ⟨other, hbreaks⟩ | hnone
  · rw [operand_of_reads hreads] at h
    cases h
  · rw [operand_of_breaks hbreaks] at h
    cases h
    exact hbreaks
  · rw [hnone] at h
    cases h

/-- A datum that breaks nothing: one that is read, or no operand. -/
def Harmless (d : Datum) : Prop :=
  ∀ failure, ¬Breaks d failure

theorem exists_operand_iff {d : Datum} : (∃ read, operand d = .ok read) ↔ Harmless d := by
  unfold Harmless
  simp only [← operand_eq_error_iff]
  cases operand d with
  | error failure => simp
  | ok read => simp

/-! ## Calculations -/

/-- A calculation reads both operands before it looks at anything else, and has the value that the
operator has in an expression. -/
theorem perform_eq (left : Datum) (symbol : List Char) (right : Datum) :
    perform left symbol right = operand left >>= fun a => operand right >>= fun b =>
      pure (a.bind fun x => b.bind fun y => (apply x symbol y).toOption) := by
  unfold perform operands apply
  rcases operand left with failure | _ | x
  · rfl
  · rcases operand right with failure | y <;> rfl
  · rcases operand right with failure | _ | y
    · rfl
    · cases Operator.ofText? symbol <;> rfl
    · cases Operator.ofText? symbol with
      | none => rfl
      | some op =>
        refine congrArg Except.ok ?_
        simp only [Option.bind_some, Operator.apply]
        rcases op.combine x y with error | _ | result
        · rfl
        · rfl
        · simp only
          split <;> rfl

/-- A calculation has a value where both operands are read and the operator has one for them. -/
theorem perform_eq_some_iff {left right : Datum} {symbol : List Char} {value : Float} :
    perform left symbol right = .ok (some value) ↔
      ∃ a b, ∃ op : Operator, Reads left a ∧ symbol = [op.char] ∧ Reads right b ∧
        op.apply a b = .ok value := by
  rw [perform_eq, bind_eq_ok_iff]
  simp only [bind_eq_ok_iff, pure, Except.pure, Except.ok.injEq, Option.bind_eq_some_iff,
    toOption_eq_some_iff, apply_eq_ok_iff]
  constructor
  · rintro ⟨_, hleft, _, hright, a, rfl, b, rfl, op, hsymbol, hvalue⟩
    exact ⟨a, b, op, operand_eq_some_iff.mp hleft, hsymbol, operand_eq_some_iff.mp hright, hvalue⟩
  · rintro ⟨a, b, op, hleft, hsymbol, hright, hvalue⟩
    exact ⟨_, operand_of_reads hleft, _, operand_of_reads hright, a, rfl, b, rfl, op, hsymbol,
      hvalue⟩

/-- The left operand breaks first. -/
theorem perform_eq_error_iff {left right : Datum} {symbol : List Char} {failure : Failure} :
    perform left symbol right = .error failure ↔
      Breaks left failure ∨ Harmless left ∧ Breaks right failure := by
  rw [perform_eq, bind_eq_error_iff, operand_eq_error_iff, ← exists_operand_iff]
  refine or_congr_right ?_
  rw [← exists_and_right]
  refine exists_congr fun a => and_congr_right fun _ => ?_
  rw [bind_eq_error_iff, operand_eq_error_iff]
  refine or_iff_left ?_
  rintro ⟨b, -, h⟩
  cases h

/-- A calculation gives no value or a finite one, whatever its operator, unless one of its operands
breaks: a whole number beyond all doubles, or a literal with an information separator among the
blanks around it. It fails then as the first of these operands does. -/
theorem perform_by_operands (left : Datum) (symbol : List Char) (right : Datum) :
    ((∃ result, perform left symbol right = .ok result ∧
        ∀ value, result = some value → value.isFinite = true) ↔
      Harmless left ∧ Harmless right) ∧
      (∀ failure, perform left symbol right = .error failure ↔
        Breaks left failure ∨ Harmless left ∧ Breaks right failure) ∧
      ∀ value, perform left symbol right = .ok (some value) ↔
        ∃ a b, ∃ op : Operator, Reads left a ∧ symbol = [op.char] ∧ Reads right b ∧
          op.apply a b = .ok value := by
  refine ⟨⟨?_, ?_⟩, fun _ => perform_eq_error_iff, fun _ => perform_eq_some_iff⟩
  · rintro ⟨result, hresult, -⟩
    have hleft : Harmless left := fun failure hbreaks => by
      rw [perform_eq_error_iff.mpr (.inl hbreaks)] at hresult
      cases hresult
    refine ⟨hleft, fun failure hbreaks => ?_⟩
    rw [perform_eq_error_iff.mpr (.inr ⟨hleft, hbreaks⟩)] at hresult
    cases hresult
  · rintro ⟨hleft, hright⟩
    cases hresult : perform left symbol right with
    | error failure =>
      rcases perform_eq_error_iff.mp hresult with hbreaks | ⟨-, hbreaks⟩
      · exact absurd hbreaks (hleft failure)
      · exact absurd hbreaks (hright failure)
    | ok result =>
      refine ⟨result, rfl, ?_⟩
      rintro value rfl
      obtain ⟨a, b, op, -, -, -, hvalue⟩ := perform_eq_some_iff.mp hresult
      exact isFinite_of_operator_apply hvalue

/-- A whole number beyond all doubles breaks a calculation, and so does a separator in front of a
digit. -/
theorem perform_breaks :
    perform (.integer (10 ^ 400 : ℕ)) ['+'] (.integer 1) = .error .integerTooLarge ∧
      perform (.text ['\x1c', '1']) ['+'] (.text ['1']) =
        .error (.unreadable ['\x1c', '1']) := by
  constructor
  · refine perform_eq_error_iff.mpr (.inl (.integer ?_))
    rw [Int.natAbs_natCast]
    decide +kernel
  · rfl

/-! ## Doubles as operands -/

/-- Only a division by zero has no outcome at all. -/
theorem combine_eq_none_iff {op : Operator} {a b : Float} :
    op.combine a b = .ok none ↔ op = .divide ∧ (b == 0.0) = true := by
  cases op with
  | divide => simp [Operator.combine]
  | power =>
    change (Number.power a b).map some = .ok none ↔ _
    cases Number.power a b <;> simp [Except.map]
  | _ => simp [Operator.combine]

theorem operator_apply_eq_divisionByZero_iff {op : Operator} {a b : Float} :
    op.apply a b = .error .divisionByZero ↔ op = .divide ∧ (b == 0.0) = true := by
  rw [← combine_eq_none_iff]
  unfold Operator.apply
  rcases op.combine a b with error | _ | result
  · simp
  · simp
  · simp only
    split <;> simp

/-- The check of a division stops just what the table of operations has no outcome for. -/
theorem apply_eq_divisionByZero_iff {a b : Float} {symbol : List Char} :
    apply a symbol b = .error .divisionByZero ↔
      symbol = [Operator.divide.char] ∧ (b == 0.0) = true := by
  constructor
  · intro h
    unfold apply at h
    split at h
    · rename_i op hop
      obtain ⟨rfl, hzero⟩ := operator_apply_eq_divisionByZero_iff.mp h
      exact ⟨ofText?_eq_some_iff.mp hop, hzero⟩
    · cases h
  · rintro ⟨rfl, hzero⟩
    rw [apply_char]
    exact operator_apply_eq_divisionByZero_iff.mpr ⟨rfl, hzero⟩

/-- For two doubles a calculation has a value exactly where the operator has it in an expression,
and none exactly where the operator has a fault there, be it unknown, a division by zero, or
without a finite result. The value of a split expression is the same. -/
theorem perform_agrees (a b : Float) (symbol : List Char) :
    (∀ value, perform (.real a) symbol (.real b) = .ok (some value) ↔
        apply a symbol b = .ok value) ∧
      (perform (.real a) symbol (.real b) = .ok none ↔ ∃ fault, apply a symbol b = .error fault) ∧
      (∀ text result, perform (.real a) symbol (.real b) =
        .ok (binaryValue? (some ⟨a, symbol, b, text, result⟩))) ∧
      (apply a symbol b = .error .divisionByZero ↔
        symbol = [Operator.divide.char] ∧ (b == 0.0) = true) := by
  have hperform : perform (.real a) symbol (.real b) = .ok (apply a symbol b).toOption :=
    perform_eq _ _ _
  rw [hperform]
  refine ⟨fun value => ?_, ?_, fun text result => rfl, apply_eq_divisionByZero_iff⟩
  · rw [Except.ok.injEq, toOption_eq_some_iff]
  · cases apply a symbol b <;> simp [Except.toOption]

end RomanCalc.Expression
