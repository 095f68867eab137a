import RomanCalc.Proofs.Expression.Faults
import RomanCalc.Proofs.Expression.Pieces
import RomanCalc.Proofs.Expression.Rows

/-!
# The grammar of expressions

The texts that are evaluated as a whole are those of formulas without signs inside (`InGrammar`),
once their blanks are gone. An operator that is misplaced (`Misplaced`) is found by the check, and
nothing else is called malformed: the tokens of a text that passes the check alternate
(`Alternating`), so they always make a chain.
-/

namespace RomanCalc.Expression

open Number (Literal Signed)

/-- Texts of literals with operators between them, with a minus sign in front or none. -/
def InGrammar (clean : List Char) : Prop :=
  ∃ f : Formula, f.Unsigned ∧ f.text = clean

/-- Texts without any operand, or with an operator where an operand is missing. -/
inductive Misplaced : List Char → Prop
  | empty : Misplaced []
  | last (before : List Char) (op : Operator) : Misplaced (before ++ [op.char])
  | first (op : Operator) (rest : List Char) (h : op ≠ .subtract) : Misplaced (op.char :: rest)
  | adjacent (before : List Char) (a b : Operator) (rest : List Char) :
    Misplaced (before ++ a.char :: b.char :: rest)

/-- Numbers with one operator between neighbours: they stand in the even places. -/
structure Alternating (row : List Token) : Prop where
  odd : row.length % 2 = 1
  number : ∀ i token, row[i]? = some token → ((∃ value, token = .number value) ↔ i % 2 = 0)

/-! ## Misplaced operators -/

theorem misplaced_of_adjacent {s : List Char} (before : List Char)
    (h : hasAdjacentOperators s = true) : Misplaced (before ++ s) := by
  induction s generalizing before with
  | nil => cases h
  | cons c s ih =>
    rw [hasAdjacentOperators, Bool.or_eq_true_iff] at h
    rcases h with h | h
    · obtain ⟨hc, hs⟩ := Bool.and_eq_true_iff.mp h
      cases s with
      | nil => cases hs
      | cons d s =>
        obtain ⟨a, rfl⟩ := exists_eq_char hc
        obtain ⟨b, rfl⟩ := exists_eq_char hs
        exact .adjacent before a b s
    · have hmore := ih (before ++ [c]) h
      rwa [List.append_assoc, List.singleton_append] at hmore

/-- Operators are well placed where none is misplaced. -/
theorem wellPlaced_iff {s : List Char} : WellPlaced s ↔ ¬Misplaced s := by
  constructor
  · intro hplaced hmisplaced
    cases hmisplaced with
    | empty => exact hplaced.nonempty rfl
    | last before op =>
      have hlast := hplaced.last
      rw [List.getLast?_concat, Option.any_some, isOperatorChar_char] at hlast
      cases hlast
    | first op rest hop =>
      have hhead : isLeadingFault op.char = false := hplaced.head
      cases op with
      | subtract => exact hop rfl
      | _ => cases hhead
    | adjacent before a b rest =>
      have hapart := hasAdjacentOperators_of_append hplaced.apart
      rw [hasAdjacentOperators_operators] at hapart
      cases hapart
  · intro h
    refine ⟨?_, ?_, ?_, ?_⟩
    · rintro rfl
      exact h .empty
    · rcases List.eq_nil_or_concat s with rfl | ⟨before, c, rfl⟩
      · rfl
      · rw [List.concat_eq_append] at h ⊢
        rw [List.getLast?_concat, Option.any_some, Bool.eq_false_iff]
        intro hc
        obtain ⟨op, rfl⟩ := exists_eq_char hc
        exact h (.last before op)
    · cases s with
      | nil => rfl
      | cons c rest =>
        rw [List.head?_cons, Option.any_some, Bool.eq_false_iff]
        intro hc
        obtain ⟨hop, hminus⟩ := Bool.and_eq_true_iff.mp hc
        obtain ⟨op, rfl⟩ := exists_eq_char hop
        refine h (.first op rest ?_)
        rintro rfl
        cases hminus
    · rw [Bool.eq_false_iff]
      exact fun hadjacent => h (misplaced_of_adjacent [] hadjacent)

/-! ## Tokens that alternate -/

theorem Chain.alternating_tokens (chain : Chain) : Alternating chain.tokens := by
  obtain ⟨first, rest⟩ := chain
  induction rest generalizing first with
  | nil =>
    refine ⟨rfl, fun i token h => ?_⟩
    cases i with
    | zero => simpa using ⟨_, (Option.some.inj h).symm⟩
    | succ i => cases h
  | cons step rest ih =>
    obtain ⟨symbol, value⟩ := step
    have hmore := ih value
    -- two tokens stand before those of the shorter chain, so every place keeps its parity
    refine ⟨?_, fun i token h => ?_⟩
    · change ((Chain.mk value rest).tokens.length + 2) % 2 = 1
      rw [Nat.add_mod_right, hmore.odd]
    · match i with
      | 0 => simpa using ⟨_, (Option.some.inj h).symm⟩
      | 1 =>
        cases h
        simp
      | i + 2 =>
        change (Chain.mk value rest).tokens[i]? = some token at h
        rw [Nat.add_mod_right]
        exact hmore.number i token h

/-- Tokens that alternate are those of a chain. -/
theorem exists_chain : ∀ {row : List Token}, Alternating row → ∃ chain : Chain, chain.tokens = row
  | [], h => absurd h.odd (by simp)
  | [.number value], _ => ⟨.single value, rfl⟩
  | .operator symbol :: _, h => absurd ((h.number 0 _ rfl).mpr rfl) (by simp)
  | .number _ :: .number value :: _, h => absurd ((h.number 1 _ rfl).mp ⟨value, rfl⟩) (by simp)
  | [.number _, .operator _], h => absurd h.odd (by simp)
  | .number value :: .operator symbol :: next :: rest, h => by
    have hmore : Alternating (next :: rest) := by
      refine ⟨?_, fun i token hi => ?_⟩
      · have hodd := h.odd
        simp only [List.length_cons] at hodd ⊢
        omega
      · rw [h.number (i + 2) token hi, Nat.add_mod_right]
    obtain ⟨chain, hchain⟩ := exists_chain hmore
    exact ⟨(Chain.single value).join symbol chain, by rw [Chain.tokens_join, hchain]⟩

/-- The chain that the tokens of a formula are. -/
def Formula.chain (f : Formula) : Chain :=
  ⟨f.first.value, f.rest.map fun step => ([step.1.char], step.2.value)⟩

theorem Formula.tokens_chain (f : Formula) : f.chain.tokens = f.tokens := by
  simp [Formula.chain, Chain.tokens, Formula.tokens, Formula.restTokens, List.flatMap_map]

theorem alternating_tokens (f : Formula) : Alternating f.tokens := by
  rw [← f.tokens_chain]
  exact f.chain.alternating_tokens

/-- The tokens of a formula are a chain. -/
theorem ofTokens_tokens (f : Formula) : Chain.ofTokens f.tokens = .ok f.chain := by
  rw [← f.tokens_chain, Chain.ofTokens_tokens]

theorem kind_of_tokens {f : Formula} {fault : Fault}
    (h : evaluateTokens f.tokens = .error fault) : ArithmeticFault fault :=
  kind_of_evaluateTokens (ofTokens_tokens f) h

/-- Reading the text of a formula fails only at a literal beyond all doubles. -/
theorem kind_of_tokensFrom_rest {n : Signed Char.isDigit}
    {rest : List (Operator × Signed Char.isDigit)} {fault : Fault}
    (h : tokensFrom n.text false (Formula.restText rest) = .error fault) :
    fault.kind = .numericOverflow := by
  have hclose : ∀ {m : Signed Char.isDigit}, closeLiteral m.text = .error fault →
      fault.kind = .numericOverflow := by
    intro m hm
    by_cases hfinite : m.value.isFinite = true
    · rw [closeLiteral_text hfinite] at hm
      cases hm
    · unfold closeLiteral at hm
      rw [if_neg (by simpa using m.text_ne_nil), readLiteral_text, if_neg hfinite] at hm
      cases hm
      rfl
  induction rest generalizing n with
  | nil => exact hclose h
  | cons step rest ih =>
    obtain ⟨op, m⟩ := step
    change tokensFrom n.text false (op.char :: (m.text ++ Formula.restText rest)) = _ at h
    rw [tokensFrom_operator, tokensFrom_signed_append] at h
    rcases bind_eq_error_iff.mp h with h | ⟨before, -, h⟩
    · exact hclose h
    · rcases bind_eq_error_iff.mp h with h | ⟨after, -, h⟩
      · exact ih h
      · cases h

/-! ## Evaluating within the grammar -/

variable {limit : Int} {e : List Char}

theorem inGrammar_of_evaluate {value : Float}
    (h : Strategy.precedence.evaluate limit (.text e) = .ok value) :
    InGrammar (Text.removeBlanks e) := by
  obtain ⟨clean, hclean, h⟩ := bind_eq_ok_iff.mp h
  obtain ⟨row, hrow, -⟩ := bind_eq_ok_iff.mp h
  obtain ⟨rfl, f, hunsigned, -, htext, -⟩ := exists_formula_of_checkStructure hclean hrow
  exact ⟨f, hunsigned, htext⟩

theorem arithmeticFault_of_inGrammar {fault : Fault} (hlimit : (e.length : Int) ≤ limit)
    (hgrammar : InGrammar (Text.removeBlanks e))
    (h : Strategy.precedence.evaluate limit (.text e) = .error fault) : ArithmeticFault fault := by
  obtain ⟨f, hunsigned, htext⟩ := hgrammar
  have hplaced : WellPlaced (Text.removeBlanks e) := htext ▸ wellPlaced_text hunsigned
  rw [evaluate_of_wellPlaced hlimit hplaced] at h
  rcases bind_eq_error_iff.mp h with h | ⟨row, hrow, h⟩
  · rw [← htext] at h
    unfold tokens Formula.text at h
    rw [tokensFrom_signed_append] at h
    exact .inl (kind_of_tokensFrom_rest h)
  · rw [← Text.removeBlanks_removeBlanks] at hplaced
    obtain ⟨g, -, -, -, rfl⟩ := exists_formula hplaced hrow
    exact kind_of_tokens h

theorem exists_malformed_iff (hlimit : (e.length : Int) ≤ limit) :
    (∃ fault, Strategy.precedence.evaluate limit (.text e) = .error fault ∧
      fault.kind = .malformedExpression) ↔ Misplaced (Text.removeBlanks e) := by
  constructor
  · rintro ⟨fault, hfault, hkind⟩
    refine Classical.byContradiction fun hmisplaced => ?_
    have hplaced := wellPlaced_iff.mpr hmisplaced
    have hother : OperandFault fault ∨ ArithmeticFault fault := by
      rw [evaluate_of_wellPlaced hlimit hplaced] at hfault
      rcases bind_eq_error_iff.mp hfault with htokens | ⟨row, hrow, hvalue⟩
      · exact .inl (kind_of_tokensFrom htokens)
      · rw [← Text.removeBlanks_removeBlanks] at hplaced
        obtain ⟨f, -, -, -, rfl⟩ := exists_formula hplaced hrow
        exact .inr (kind_of_tokens hvalue)
    rcases hother with (h | h) | (h | h) <;> rw [hkind] at h <;> cases h
  · intro hmisplaced
    cases hclean : checkStructure limit (.text e) with
    | error fault =>
      exact ⟨fault, bind_eq_error_iff.mpr (.inl hclean), kind_of_checkStructure hclean⟩
    | ok clean =>
      obtain ⟨text, htext, -, rfl, hplaced⟩ := checkStructure_eq_ok_iff.mp hclean
      cases htext
      exact absurd hmisplaced (wellPlaced_iff.mp hplaced)

/-- A text within the limit has a value by precedence only if it is in the grammar, and if it is
in the grammar only its arithmetic can fail. It is malformed exactly if operators are misplaced in
it, and the tokens of what passes the check alternate, so that only the arithmetic is left. -/
theorem evaluate_by_grammar (hlimit : (e.length : Int) ≤ limit) :
    ((∃ value, Strategy.precedence.evaluate limit (.text e) = .ok value) →
      InGrammar (Text.removeBlanks e)) ∧
    (InGrammar (Text.removeBlanks e) → ∀ fault,
      Strategy.precedence.evaluate limit (.text e) = .error fault → ArithmeticFault fault) ∧
    ((∃ fault, Strategy.precedence.evaluate limit (.text e) = .error fault ∧
      fault.kind = .malformedExpression) ↔ Misplaced (Text.removeBlanks e)) ∧
    ∀ clean row, checkStructure limit (.text e) = .ok clean → tokens clean = .ok row →
      Alternating row ∧ ∀ fault, evaluateTokens row = .error fault → ArithmeticFault fault := by
  refine ⟨?_, ?_, exists_malformed_iff hlimit, ?_⟩
  · rintro ⟨value, hvalue⟩
    exact inGrammar_of_evaluate hvalue
  · intro hgrammar fault hfault
    exact arithmeticFault_of_inGrammar hlimit hgrammar hfault
  · intro clean row hclean hrow
    obtain ⟨-, f, -, -, -, rfl⟩ := exists_formula_of_checkStructure hclean hrow
    exact ⟨alternating_tokens f, fun fault hfault => kind_of_tokens hfault⟩

theorem evaluate_by_grammar_texts :
    InGrammar "-1+.5".toList ∧ Misplaced "2*+3".toList := by
  constructor
  · have hvalue : (Strategy.precedence.evaluate 8 (.text "-1 + .5 ".toList)).isOk = true := by
      decide +kernel
    obtain ⟨hgrammar, -⟩ := @evaluate_by_grammar 8 "-1 + .5 ".toList (by decide)
    apply hgrammar
    cases h : Strategy.precedence.evaluate 8 (.text "-1 + .5 ".toList) with
    | ok value => exact ⟨value, rfl⟩
    | error fault =>
      rw [h] at hvalue
      cases hvalue
  · obtain ⟨-, -, hmalformed, -⟩ := @evaluate_by_grammar 8 "2 * + 3".toList (by decide)
    exact hmalformed.mp ⟨.consecutiveOperators, rfl, rfl⟩

end RomanCalc.Expression
