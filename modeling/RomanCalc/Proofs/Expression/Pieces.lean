import RomanCalc.Proofs.Expression.Formula
import RomanCalc.Proofs.Expression.Split

/-!
# Tokens are what is written

A text that has tokens is made of the literals and operators that the tokens stand for, apart from
blanks, and nothing of it is lost (`exists_pieces`). No literal follows another, and where a minus
sign would belong to a number it is no operator (`Spaced`). So reading is the inverse of writing,
with blanks wherever one likes (`tokens_lossless`). Once the operators are well placed, the pieces
of a text are those of a formula (`exists_formula`).
-/

namespace RomanCalc.Expression

open Number (Literal Signed)

/-- What a token is read from: a literal or an operator. -/
inductive Piece
  | number (literal : Signed Char.isDigit)
  | operator (op : Operator)

namespace Piece

def text : Piece → List Char
  | number n => n.text
  | operator op => [op.char]

def token : Piece → Token
  | number n => .number n.value
  | operator op => .operator [op.char]

/-- A literal has a finite double. -/
def Finite : Piece → Prop
  | number n => n.value.isFinite = true
  | operator _ => True

end Piece

/-- The pieces of one text side by side. -/
def joined (pieces : List Piece) : List Char :=
  pieces.flatMap Piece.text

/-- How pieces follow each other: a literal stands only where an operand is expected, and there a
minus sign is no operator. -/
def Spaced (atOperand : Bool) : List Piece → Prop
  | [] => True
  | .number _ :: rest => atOperand = true ∧ Spaced false rest
  | .operator op :: rest => (atOperand = true → op ≠ .subtract) ∧ Spaced true rest

/-! ## Reading pieces off a text -/

/-- Characters that are collected for a literal. -/
def LiteralChars (s : List Char) : Prop :=
  ∀ c ∈ s, Keypad.isNumberChar c = true ∨ c = '-'

theorem LiteralChars.append {s : List Char} {c : Char} (h : LiteralChars s)
    (hc : Keypad.isNumberChar c = true ∨ c = '-') : LiteralChars (s ++ [c]) := by
  intro d hd
  rcases List.mem_append.mp hd with hd | hd
  · exact h d hd
  · rwa [List.mem_singleton.mp hd]

/-- Basic digits are the only digits that are collected for a literal. -/
theorem isDigit_of_literalChars {s : List Char} {c : Char} (hs : LiteralChars s) (hc : c ∈ s)
    (hdigit : Text.isDecimalDigit c = true) : c.isDigit = true := by
  rcases hs c hc with hnumber | rfl
  · rcases Bool.or_eq_true_iff.mp hnumber with hbasic | hpoint
    · exact hbasic
    · rw [of_decide_eq_true hpoint] at hdigit
      exact absurd hdigit (by decide)
  · exact absurd hdigit (by decide)

theorem exists_number {literal : List Char} {row : List Token} (hne : literal ≠ [])
    (hchars : LiteralChars literal) (h : closeLiteral literal = .ok row) :
    ∃ n : Signed Char.isDigit, n.text = literal ∧ n.value.isFinite = true ∧
      row = [.number n.value] := by
  have hread : (readLiteral literal).map (fun value => [Token.number value]) = .ok row := by
    unfold closeLiteral at h
    rwa [if_neg (by simpa using hne)] at h
  cases hvalue : readLiteral literal with
  | error fault =>
    rw [hvalue] at hread
    cases hread
  | ok value =>
    rw [hvalue] at hread
    cases hread
    obtain ⟨n, hn, rfl, hfinite⟩ := readLiteral_eq_ok_iff.mp hvalue
    have hdigits : ∀ c ∈ n.magnitude.whole ++ n.magnitude.places.getD [], c.isDigit = true := by
      intro c hc
      have hmem : c ∈ literal :=
        hn ▸ Signed.mem_text_of_mem_magnitude (Literal.mem_text_of_mem_digits hc)
      exact isDigit_of_literalChars hchars hmem (n.magnitude.digits c hc)
    exact ⟨n.withDigits hdigits, hn, hfinite, rfl⟩

/-- An operator closes the literal before it. Where none was begun, the operator is no sign. -/
theorem exists_closed {literal : List Char} {op : Operator} {before : List Token}
    {pieces : List Piece} (hplain : literal = [] → op ≠ .subtract) (hchars : LiteralChars literal)
    (hbefore : closeLiteral literal = .ok before) (hfinite : ∀ p ∈ pieces, p.Finite)
    (hspaced : Spaced true pieces) :
    ∃ closed : List Piece, literal ++ op.char :: joined pieces = joined closed ∧
      before ++ .operator [op.char] :: pieces.map Piece.token = closed.map Piece.token ∧
      (∀ p ∈ closed, p.Finite) ∧ Spaced true closed := by
  have hrest : ∀ p ∈ Piece.operator op :: pieces, p.Finite :=
    List.forall_mem_cons.mpr ⟨trivial, hfinite⟩
  by_cases hne : literal = []
  · subst hne
    cases hbefore
    exact ⟨.operator op :: pieces, rfl, rfl, hrest, fun _ => hplain rfl, hspaced⟩
  · obtain ⟨n, rfl, hn, rfl⟩ := exists_number hne hchars hbefore
    refine ⟨.number n :: .operator op :: pieces, rfl, rfl, ?_, rfl, by simp, hspaced⟩
    exact List.forall_mem_cons.mpr ⟨hn, hrest⟩

/-- The tokens of a text together with the literal that is being read, each with what it was read
from. A literal that is not begun waits for an operand. -/
theorem exists_pieces {literal text : List Char} {atOperand : Bool} {row : List Token}
    (hstart : literal = [] → atOperand = true) (hchars : LiteralChars literal)
    (h : tokensFrom literal atOperand text = .ok row) :
    ∃ pieces : List Piece, literal ++ Text.removeBlanks text = joined pieces ∧
      row = pieces.map Piece.token ∧ (∀ p ∈ pieces, p.Finite) ∧ Spaced true pieces := by
  induction text generalizing literal atOperand row with
  | nil =>
    by_cases hne : literal = []
    · subst hne
      cases h
      exact ⟨[], rfl, rfl, by simp, trivial⟩
    · obtain ⟨n, rfl, hfinite, rfl⟩ := exists_number hne hchars h
      refine ⟨[.number n], by simp [joined, Piece.text, Text.removeBlanks], rfl, ?_, rfl, trivial⟩
      intro p hp
      rw [List.mem_singleton.mp hp]
      exact hfinite
  | cons c text ih =>
    rw [tokensFrom] at h
    split at h
    · rename_i hblank
      rw [Text.removeBlanks_cons_of_blank hblank]
      exact ih hstart hchars h
    · rename_i hblank
      rw [Text.removeBlanks_cons_of_not_blank (by simpa using hblank)]
      split at h
      · rename_i hnumber
        obtain ⟨pieces, htext, hrest⟩ := ih (by simp) (hchars.append (.inl hnumber)) h
        exact ⟨pieces, by rw [← htext, List.append_assoc, List.singleton_append], hrest⟩
      · split at h
        · rename_i hop
          split at h
          · rename_i hsign
            obtain ⟨rfl, -⟩ := hsign
            obtain ⟨pieces, htext, hrest⟩ := ih (fun _ => rfl) (hchars.append (.inr rfl)) h
            exact ⟨pieces, by rw [← htext, List.append_assoc, List.singleton_append], hrest⟩
          · rename_i hsign
            obtain ⟨op, rfl⟩ := exists_eq_char hop
            obtain ⟨before, hbefore, h⟩ := bind_eq_ok_iff.mp h
            obtain ⟨after, hafter, h⟩ := bind_eq_ok_iff.mp h
            cases h
            have hplain : literal = [] → op ≠ .subtract := by
              rintro hnil rfl
              exact hsign ⟨rfl, hstart hnil⟩
            obtain ⟨pieces, htext, rfl, hfinite, hspaced⟩ :=
              ih (fun _ => rfl) (by simp [LiteralChars]) hafter
            rw [List.nil_append] at htext
            rw [htext]
            exact exists_closed hplain hchars hbefore hfinite hspaced
        · cases h

/-! ## Reading and writing -/

/-- Blanks do not matter to the reader, not even within a literal. -/
theorem tokensFrom_removeBlanks (literal : List Char) (atOperand : Bool) (text : List Char) :
    tokensFrom literal atOperand (Text.removeBlanks text) = tokensFrom literal atOperand text := by
  induction text generalizing literal atOperand with
  | nil => rfl
  | cons c text ih =>
    by_cases hblank : Text.isBlank c = true
    · rw [Text.removeBlanks_cons_of_blank hblank, ih, tokensFrom, if_pos hblank]
    · rw [Text.removeBlanks_cons_of_not_blank (by simpa using hblank)]
      simp only [tokensFrom, if_neg hblank, ih]

/-- Between two literals stands an operator. -/
theorem Spaced.not_adjacent {atOperand : Bool} {pieces : List Piece} (h : Spaced atOperand pieces)
    (before : List Token) (a b : Float) (after : List Token) :
    pieces.map Piece.token ≠ before ++ .number a :: .number b :: after := by
  induction pieces generalizing atOperand before with
  | nil => simp
  | cons p pieces ih =>
    intro heq
    cases before with
    | nil =>
      match p, pieces, h, heq with
      | .operator _, _, _, heq => cases heq
      | .number _, [], _, heq => cases heq
      | .number _, .operator _ :: _, _, heq => cases heq
      | .number _, .number _ :: _, h, _ => exact absurd h.2.1 (by simp)
    | cons token before =>
      have hrest := (List.cons.inj heq).2
      cases p with
      | number _ => exact ih h.2 before hrest
      | operator _ => exact ih h.2 before hrest

/-- Reading tokens is the inverse of writing them. A formula with blanks anywhere in its text is
read as its tokens. Whatever has tokens is, without its blanks, what they are written as: a literal
for the value of each number and the operators, side by side in the order of the tokens. No two
numbers are neighbours. -/
theorem tokens_lossless (text : List Char) :
    (∀ f : Formula, f.Finite → Text.removeBlanks text = f.text → tokens text = .ok f.tokens) ∧
    ∀ row, tokens text = .ok row →
      (∃ pieces : List Piece, joined pieces = Text.removeBlanks text ∧
        pieces.map Piece.token = row) ∧
      ∀ before a b after, row ≠ before ++ .number a :: .number b :: after := by
  constructor
  · intro f hfinite htext
    have hread : tokens (Text.removeBlanks text) = tokens text :=
      tokensFrom_removeBlanks [] true text
    rw [← hread, htext, tokens_text hfinite]
  · intro row hrow
    obtain ⟨pieces, htext, rfl, -, hspaced⟩ :=
      exists_pieces (fun _ => rfl) (by simp [LiteralChars]) hrow
    exact ⟨⟨pieces, htext.symm, rfl⟩, hspaced.not_adjacent⟩

/-- Blanks within a number and behind its sign, and a row that is no formula. -/
theorem tokens_lossless_signs :
    tokens "1 2- - .5^-3.".toList =
      .ok [.number 12.0, .operator ['-'], .number (-0.5), .operator ['^'], .number (-3.0)] ∧
    ∃ pieces, joined pieces = "*-2".toList ∧
      pieces.map Piece.token = [.operator ['*'], .number (-2.0)] := by
  constructor
  · have hread := (tokens_lossless "1 2- - .5^-3.".toList).1
      ⟨⟨false, ⟨['1', '2'], none, List.all_eq_true.mp rfl, by decide⟩⟩,
        [(.subtract, ⟨true, ⟨[], some ['5'], List.all_eq_true.mp rfl, by decide⟩⟩),
          (.power, ⟨true, ⟨['3'], some [], List.all_eq_true.mp rfl, by decide⟩⟩)]⟩
    refine hread ⟨by decide +kernel, ?_⟩ rfl
    simp only [List.forall_mem_cons, List.not_mem_nil, false_implies, implies_true, and_true]
    decide +kernel
  · have hrow : tokens " * - 2".toList = .ok [.operator ['*'], .number (-2.0)] := rfl
    exact ((tokens_lossless " * - 2".toList).2 _ hrow).1

/-! ## Pieces as a formula -/

theorem hasAdjacentOperators_of_append {s t : List Char}
    (h : hasAdjacentOperators (s ++ t) = false) : hasAdjacentOperators t = false := by
  induction s with
  | nil => exact h
  | cons c s ih =>
    rw [List.cons_append, hasAdjacentOperators, Bool.or_eq_false_iff] at h
    exact ih h.2

theorem hasAdjacentOperators_operators (a b : Operator) (t : List Char) :
    hasAdjacentOperators (a.char :: b.char :: t) = true := by
  simp [hasAdjacentOperators, isOperatorChar_char]

theorem getLast?_of_append {s t : List Char} (h : (s ++ t).getLast?.any isOperatorChar = false) :
    t.getLast?.any isOperatorChar = false := by
  rw [List.getLast?_append] at h
  cases hlast : t.getLast? with
  | none => rfl
  | some c => simpa [hlast] using h

/-- Behind a literal, pieces with their operators apart and none at the end are the operators and
literals of a formula. -/
theorem exists_rest : ∀ {pieces : List Piece}, Spaced false pieces →
    (∀ p ∈ pieces, p.Finite) → hasAdjacentOperators (joined pieces) = false →
    (joined pieces).getLast?.any isOperatorChar = false →
    ∃ rest, Formula.restText rest = joined pieces ∧
      Formula.restTokens rest = pieces.map Piece.token ∧
      (∀ step ∈ rest, step.2.negative = false) ∧ ∀ step ∈ rest, step.2.value.isFinite = true
  | [], _, _, _, _ => ⟨[], rfl, rfl, by simp, by simp⟩
  | .number _ :: _, hspaced, _, _, _ => absurd hspaced.1 (by simp)
  | [.operator op], _, _, _, hlast => by
    change (some op.char).any isOperatorChar = false at hlast
    simp [isOperatorChar_char] at hlast
  | .operator a :: .operator b :: pieces, _, _, hapart, _ => by
    change hasAdjacentOperators (a.char :: b.char :: joined pieces) = false at hapart
    rw [hasAdjacentOperators_operators] at hapart
    cases hapart
  | .operator op :: .number n :: pieces, hspaced, hfinite, hapart, hlast => by
    have htext : joined (.operator op :: .number n :: pieces) =
        (op.char :: n.text) ++ joined pieces := by
      simp [joined, Piece.text]
    rw [htext] at hapart hlast
    have hsign : n.negative = false := by
      obtain ⟨negative, l⟩ := n
      cases negative with
      | false => rfl
      | true =>
        have hadjacent := hasAdjacentOperators_operators op .subtract (l.text ++ joined pieces)
        exact absurd (hapart.symm.trans hadjacent) (by simp)
    rw [List.forall_mem_cons, List.forall_mem_cons] at hfinite
    obtain ⟨rest, hrest, htokens, hunsigned, hrestFinite⟩ :=
      exists_rest hspaced.2.2 hfinite.2.2 (hasAdjacentOperators_of_append hapart)
        (getLast?_of_append hlast)
    refine ⟨(op, n) :: rest, ?_, ?_, ?_, ?_⟩
    · rw [htext, ← hrest]
      rfl
    · rw [List.map_cons, List.map_cons, ← htokens]
      rfl
    · exact List.forall_mem_cons.mpr ⟨hsign, hunsigned⟩
    · exact List.forall_mem_cons.mpr ⟨hfinite.2.1, hrestFinite⟩

/-- A text whose operators are well placed and that has tokens is the text of a formula. -/
theorem exists_formula {text : List Char} {row : List Token}
    (hplaced : WellPlaced (Text.removeBlanks text)) (h : tokens text = .ok row) :
    ∃ f : Formula, f.Unsigned ∧ f.Finite ∧ f.text = Text.removeBlanks text ∧ f.tokens = row := by
  obtain ⟨pieces, htext, rfl, hfinite, hspaced⟩ :=
    exists_pieces (fun _ => rfl) (by simp [LiteralChars]) h
  rw [List.nil_append] at htext
  rw [htext] at hplaced
  match pieces, hplaced with
  | [], hplaced => exact absurd rfl hplaced.nonempty
  | .operator op :: pieces, hplaced =>
    -- only a minus sign may stand in front, and there it is no operator
    have hhead : isLeadingFault op.char = false := hplaced.head
    have hminus : op = .subtract := by
      cases op with
      | subtract => rfl
      | _ => cases hhead
    exact absurd hminus (hspaced.1 rfl)
  | .number n :: pieces, hplaced =>
    have hcut : joined (.number n :: pieces) = n.text ++ joined pieces := rfl
    rw [List.forall_mem_cons] at hfinite
    obtain ⟨rest, hrest, htokens, hunsigned, hrestFinite⟩ :=
      exists_rest hspaced.2 hfinite.2 (hasAdjacentOperators_of_append (hcut ▸ hplaced.apart))
        (getLast?_of_append (hcut ▸ hplaced.last))
    refine ⟨⟨n, rest⟩, hunsigned, ⟨hfinite.1, hrestFinite⟩, ?_, ?_⟩
    · rw [htext, hcut, ← hrest]
      rfl
    · rw [List.map_cons, ← htokens]
      rfl

/-- What passes the check and has tokens has the tokens of a formula. -/
theorem exists_formula_of_checkStructure {limit : Int} {e clean : List Char} {row : List Token}
    (hclean : checkStructure limit (.text e) = .ok clean) (hrow : tokens clean = .ok row) :
    clean = Text.removeBlanks e ∧
      ∃ f : Formula, f.Unsigned ∧ f.Finite ∧ f.text = clean ∧ f.tokens = row := by
  obtain ⟨text, htext, -, rfl, hplaced⟩ := checkStructure_eq_ok_iff.mp hclean
  cases htext
  rw [← Text.removeBlanks_removeBlanks] at hplaced
  obtain ⟨f, hunsigned, hfinite, htext, htokens⟩ := exists_formula hplaced hrow
  rw [Text.removeBlanks_removeBlanks] at htext
  exact ⟨rfl, f, hunsigned, hfinite, htext, htokens⟩

end RomanCalc.Expression
