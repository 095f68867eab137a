import RomanCalc.Proofs.Expression.Grammar
import RomanCalc.Proofs.Expression.Rows

/-!
# The precedence of operators

A calculation is read in one way as a sum of products of powers (`Total`). A pass over its chain
folds the rows of its own operators from the left and leaves everything else alone
(`reduces_fold`, `Reduces.row`), so the three passes fold the powers, then the products, and then
the sum (`evaluateTokens_by_precedence`). A symbol that no pass knows stays where it is: such symbols
divide the tokens into totals that are all reduced, and only the first of them is answered
(`evaluateTokens_by_parts`).
-/

namespace RomanCalc.Expression

/-! ## The operators of a pass -/

/-- Whether a symbol writes an operator of a pass. -/
def Pass.knows (pass : Pass) (symbol : List Char) : Bool :=
  ((Operator.ofText? symbol).filter pass).isSome

def raising : Pass := fun op => op = .power

def scaling : Pass := fun op => op = .multiply || op = .divide

def adding : Pass := fun op => op = .add || op = .subtract

/-- Whether a symbol writes no operator at all. -/
def isForeign (symbol : List Char) : Bool :=
  (Operator.ofText? symbol).isNone

theorem passes_eq : passes = [raising, scaling, adding] := rfl

theorem Pass.knows_iff {pass : Pass} {symbol : List Char} :
    pass.knows symbol = true ↔
      ∃ op, Operator.ofText? symbol = some op ∧ pass op = true := by
  rw [Pass.knows, Option.isSome_iff_exists]
  simp only [Option.filter_eq_some_iff]

/-- Passes that share no operator know no symbol in common. -/
theorem Pass.not_knows {pass other : Pass} (h : ∀ op, pass op = true → other op = false)
    {symbol : List Char} (hpass : pass.knows symbol = true) : other.knows symbol = false := by
  obtain ⟨op, hop, hknown⟩ := knows_iff.mp hpass
  rw [Bool.eq_false_iff]
  intro hother
  obtain ⟨op', hop', hknown'⟩ := knows_iff.mp hother
  rw [hop] at hop'
  obtain rfl := Option.some.inj hop'
  rw [h op hknown] at hknown'
  cases hknown'

theorem not_knows_of_isForeign (pass : Pass) {symbol : List Char} (h : isForeign symbol = true) :
    pass.knows symbol = false := by
  rw [isForeign, Option.isNone_iff_eq_none] at h
  rw [Pass.knows, h]
  rfl

theorem scaling_not_raising {symbol : List Char} (h : scaling.knows symbol = true) :
    raising.knows symbol = false := by
  apply Pass.not_knows _ h
  intro op
  cases op <;> simp [scaling, raising]

theorem adding_not_raising {symbol : List Char} (h : adding.knows symbol = true) :
    raising.knows symbol = false := by
  apply Pass.not_knows _ h
  intro op
  cases op <;> simp [adding, raising]

theorem adding_not_scaling {symbol : List Char} (h : adding.knows symbol = true) :
    scaling.knows symbol = false := by
  apply Pass.not_knows _ h
  intro op
  cases op <;> simp [adding, scaling]

/-- Every operator belongs to a pass. -/
theorem knows_of_not_isForeign {symbol : List Char} (h : isForeign symbol = false) :
    (adding.knows symbol || (scaling.knows symbol || (raising.knows symbol || false))) = true := by
  rw [isForeign] at h
  cases hop : Operator.ofText? symbol with
  | none => simp [hop] at h
  | some op => cases op <;> simp [Pass.knows, hop, adding, scaling, raising]

/-! ## Reading calculations -/

/-- Numbers that are raised from the left. -/
abbrev Power := Row raising.knows Float

/-- Powers that are multiplied and divided from the left. -/
abbrev Term := Row scaling.knows Power

/-- Terms that are added and subtracted from the left. -/
abbrev Total := Row adding.knows Term

/-- Totals with symbols between them that write no operator. -/
abbrev Parts := Row isForeign Total

def Total.chain (total : Total) : Chain :=
  Row.chain (Row.chain (Row.chain Chain.single)) total

def Parts.chain (parts : Parts) : Chain :=
  Row.chain Total.chain parts

/-- Totals describe the chains without foreign symbols. -/
theorem describes_total : Describes (fun symbol =>
    adding.knows symbol || (scaling.knows symbol || (raising.knows symbol || false)))
    Total.chain := by
  have hpower : Describes (fun symbol => raising.knows symbol || false)
      (Row.chain Chain.single : Power → Chain) :=
    describes_single.row (fun _ _ => rfl)
  have hterm : Describes (fun symbol => scaling.knows symbol || (raising.knows symbol || false))
      (Row.chain (Row.chain Chain.single) : Term → Chain) := by
    apply hpower.row
    intro symbol h
    rw [scaling_not_raising h]
    rfl
  apply hterm.row
  intro symbol h
  rw [adding_not_scaling h, adding_not_raising h]
  rfl

/-- Parts describe all chains. -/
theorem describes_parts : Describes (fun symbol => isForeign symbol ||
    (adding.knows symbol || (scaling.knows symbol || (raising.knows symbol || false))))
    Parts.chain := by
  apply describes_total.row
  intro symbol h
  simp [not_knows_of_isForeign _ h]

/-! ## A pass over rows -/

section Passes

variable {pass : Pass} {α β γ δ : Type}

theorem reduceFrom_known {symbol : List Char} (h : pass.knows symbol = true) (first value : Float)
    (rest : List (List Char × Float)) :
    reduceFrom pass first ((symbol, value) :: rest) =
      apply first symbol value >>= fun result => reduceFrom pass result rest := by
  obtain ⟨op, hop, hknown⟩ := Pass.knows_iff.mp h
  rw [reduceFrom, apply, hop, Option.filter_some, if_pos hknown]

theorem reduceFrom_other {symbol : List Char} (h : pass.knows symbol = false) (first value : Float)
    (rest : List (List Char × Float)) :
    reduceFrom pass first ((symbol, value) :: rest) =
      reduceFrom pass value rest >>= fun chain => pure ((Chain.single first).join symbol chain) := by
  rw [Pass.knows, Option.isSome_eq_false_iff, Option.isNone_iff_eq_none] at h
  rw [reduceFrom, h]
  rfl

/-- A symbol of another kind divides a chain into two that are reduced by themselves. -/
theorem reduce_join_other {symbol : List Char} (h : pass.knows symbol = false)
    (front back : Chain) :
    (front.join symbol back).reduce pass =
      front.reduce pass >>= fun a => back.reduce pass >>= fun b => pure (a.join symbol b) := by
  obtain ⟨first, rest⟩ := front
  induction rest generalizing first with
  | nil => exact reduceFrom_other h first back.first back.rest
  | cons step rest ih =>
    obtain ⟨s, value⟩ := step
    change reduceFrom pass first ((s, value) :: (Chain.join ⟨value, rest⟩ symbol back).rest) =
      reduceFrom pass first ((s, value) :: rest) >>= _
    by_cases hs : pass.knows s = true
    · rw [reduceFrom_known hs, reduceFrom_known hs, bind_assoc]
      exact bind_congr fun result => ih result
    · have hs : pass.knows s = false := by simpa using hs
      rw [reduceFrom_other hs, reduceFrom_other hs]
      change (Chain.join ⟨value, rest⟩ symbol back).reduce pass >>= _ = _
      rw [ih value]
      simp only [Chain.reduce, bind_assoc, pure_bind, Chain.join_join]

/-- Behind a chain of its own operators a pass goes on with the result. -/
theorem reduce_join_known {symbol : List Char} (h : pass.knows symbol = true) {front : Chain}
    (hfront : ∀ s ∈ front.symbols, pass.knows s = true) (value : Float) :
    (front.join symbol (.single value)).reduce pass =
      front.reduce pass >>= fun a => apply a.first symbol value >>= fun b =>
        pure (.single b) := by
  obtain ⟨first, rest⟩ := front
  induction rest generalizing first with
  | nil => exact reduceFrom_known h first value []
  | cons step rest ih =>
    obtain ⟨s, other⟩ := step
    have hs : pass.knows s = true := hfront s List.mem_cons_self
    change reduceFrom pass first ((s, other) :: (Chain.join ⟨other, rest⟩ symbol _).rest) =
      reduceFrom pass first ((s, other) :: rest) >>= _
    rw [reduceFrom_known hs, reduceFrom_known hs, bind_assoc]
    exact bind_congr fun result => ih result fun t ht => hfront t (List.mem_cons_of_mem s ht)

/-- A pass does to the chains of the members of a type what a computation does to the members. -/
def Reduces (pass : Pass) (chain : α → Chain) (f : α → Except Fault β) (result : β → Chain) :
    Prop :=
  ∀ a, (chain a).reduce pass = f a >>= fun b => pure (result b)

/-- A pass folds the rows of its own operators. -/
theorem reduces_fold :
    Reduces pass (Row.chain .single : Row pass.knows Float → Chain) Row.fold .single := by
  intro row
  induction row with
  | one value => rfl
  | join front symbol value ih =>
    have hfront : ∀ s ∈ (front.chain Chain.single).symbols, pass.knows s = true := by
      intro s hs
      simpa using describes_single.symbols_row front s hs
    rw [Row.chain, reduce_join_known symbol.2 hfront, ih, Row.fold]
    simp [Chain.single]

/-- A pass works member by member on the rows of other symbols. -/
theorem Reduces.row {kind : List Char → Bool} {chain : α → Chain} {f : α → Except Fault β}
    {result : β → Chain} (h : Reduces pass chain f result)
    (hkind : ∀ symbol, kind symbol = true → pass.knows symbol = false) :
    Reduces pass (Row.chain chain : Row kind α → Chain) (Row.mapM f) (Row.chain result) := by
  intro row
  induction row with
  | one a => simp [Row.chain, Row.mapM, h a]
  | join front symbol a ih =>
    rw [Row.chain, reduce_join_other (hkind _ symbol.2), ih, h a, Row.mapM]
    simp [Row.chain]

/-- The three passes one after the other. -/
theorem Reduces.passes {chain : α → Chain} {f : α → Except Fault β} {chain' : β → Chain}
    {g : β → Except Fault γ} {chain'' : γ → Chain} {h : γ → Except Fault δ} {result : δ → Chain}
    (hraising : Reduces raising chain f chain') (hscaling : Reduces scaling chain' g chain'')
    (hadding : Reduces adding chain'' h result) (a : α) :
    passes.foldlM Chain.reduce (chain a) =
      f a >>= fun b => g b >>= fun c => h c >>= fun d => pure (result d) := by
  rw [passes_eq]
  simp [hraising a, hscaling _, hadding _]

end Passes

/-! ## Finite chains -/

/-- All numbers of a chain are finite. -/
def Chain.Finite (chain : Chain) : Prop :=
  chain.first.isFinite = true ∧ ∀ step ∈ chain.rest, step.2.isFinite = true

theorem isFinite_of_apply {left right value : Float} {symbol : List Char}
    (h : apply left symbol right = .ok value) : value.isFinite = true := by
  obtain ⟨op, -, hvalue⟩ := apply_eq_ok_iff.mp h
  exact isFinite_of_operator_apply hvalue

theorem Chain.Finite.reduce {pass : Pass} {chain reduced : Chain} (h : chain.Finite)
    (hreduce : chain.reduce pass = .ok reduced) : reduced.Finite := by
  obtain ⟨first, rest⟩ := chain
  induction rest generalizing first reduced with
  | nil =>
    cases hreduce
    exact h
  | cons step rest ih =>
    obtain ⟨symbol, value⟩ := step
    obtain ⟨hfirst, hsteps⟩ := h
    obtain ⟨hvalue, hrest⟩ := List.forall_mem_cons.mp hsteps
    change reduceFrom pass first ((symbol, value) :: rest) = _ at hreduce
    by_cases hknown : pass.knows symbol = true
    · rw [reduceFrom_known hknown] at hreduce
      obtain ⟨result, hresult, hreduce⟩ := bind_eq_ok_iff.mp hreduce
      exact ih result ⟨isFinite_of_apply hresult, hrest⟩ hreduce
    · have hother : pass.knows symbol = false := by simpa using hknown
      rw [reduceFrom_other hother] at hreduce
      obtain ⟨more, hmore, hreduce⟩ := bind_eq_ok_iff.mp hreduce
      cases hreduce
      obtain ⟨hhead, htail⟩ := ih value ⟨hvalue, hrest⟩ hmore
      exact ⟨hfirst, List.forall_mem_cons.mpr ⟨hhead, htail⟩⟩

theorem Chain.Finite.foldlM_reduce {run : List Pass} {chain reduced : Chain} (h : chain.Finite)
    (hreduce : run.foldlM Chain.reduce chain = .ok reduced) : reduced.Finite := by
  induction run generalizing chain with
  | nil =>
    cases hreduce
    exact h
  | cons pass run ih =>
    rw [List.foldlM_cons] at hreduce
    obtain ⟨next, hnext, hreduce⟩ := bind_eq_ok_iff.mp hreduce
    exact ih (h.reduce hnext) hreduce

/-! ## The value of a calculation -/

/-- A row of finite numbers with operators between them. -/
structure Calculable (row : List Token) : Prop extends Alternating row where
  finite : ∀ value, .number value ∈ row → value.isFinite = true
  known : ∀ symbol, .operator symbol ∈ row → isForeign symbol = false

def Total.tokens (total : Total) : List Token :=
  total.chain.tokens

/-- The value of a sum of products of powers. First the powers are folded, from the left and one
after the other, then the terms over what they give, and then the sum; the first operation that
goes wrong ends it. -/
def Total.value (total : Total) : Except Fault Float := do
  let terms ← Row.mapM (Row.mapM Row.fold) total
  let numbers ← Row.mapM Row.fold terms
  Row.fold numbers

theorem reduce_total (total : Total) :
    passes.foldlM Chain.reduce total.chain = total.value >>= fun value => pure (.single value) := by
  have hraising : Reduces raising Total.chain (Row.mapM (Row.mapM Row.fold))
      (Row.chain (Row.chain Chain.single)) :=
    (reduces_fold.row fun _ => scaling_not_raising).row fun _ => adding_not_raising
  have hscaling : Reduces scaling (Row.chain (Row.chain Chain.single) : Row adding.knows _ → _)
      (Row.mapM Row.fold) (Row.chain Chain.single) :=
    reduces_fold.row fun _ => adding_not_scaling
  rw [hraising.passes hscaling reduces_fold, Total.value]
  simp only [bind_assoc]

theorem evaluateTokens_tokens (chain : Chain) :
    evaluateTokens chain.tokens = passes.foldlM Chain.reduce chain >>= fun reduced =>
      if reduced.first.isFinite then pure reduced.first
      else throw (.resultOutOfRange reduced.first) := by
  rw [evaluateTokens, Chain.ofTokens_tokens]
  rfl

/-- A calculation is a sum of products of powers in one way, and has the value of that sum, or its
fault. -/
theorem evaluateTokens_by_precedence {row : List Token} (h : Calculable row) :
    ∃ total : Total, total.tokens = row ∧ (∀ other : Total, other.tokens = row → other = total) ∧
      evaluateTokens row = total.value := by
  obtain ⟨chain, rfl⟩ := exists_chain h.toAlternating
  have hknown : ∀ symbol ∈ chain.symbols, isForeign symbol = false := by
    intro symbol hsymbol
    exact h.known symbol (Chain.operator_mem_tokens.mpr hsymbol)
  obtain ⟨total, rfl⟩ := describes_total.exists_eq chain fun symbol hsymbol =>
    knows_of_not_isForeign (hknown symbol hsymbol)
  have hfinite : total.chain.Finite := by
    refine ⟨h.finite _ (Chain.number_mem_tokens.mpr (.inl rfl)), fun step hstep => ?_⟩
    exact h.finite _ (Chain.number_mem_tokens.mpr (.inr ⟨step, hstep, rfl⟩))
  refine ⟨total, rfl, fun other hother => ?_, ?_⟩
  · exact describes_total.injective other total (Chain.tokens_injective hother)
  · rw [evaluateTokens_tokens, reduce_total]
    cases hvalue : total.value with
    | error fault => rfl
    | ok value =>
      have hreduced := hfinite.foldlM_reduce ((reduce_total total).trans (by rw [hvalue]; rfl))
      exact if_pos hreduced.1

/-- `2^3^2-4*5` is a difference of the power of a power and a product. -/
theorem evaluateTokens_by_precedence_difference :
    let row : List Token := [.number 2, .operator ['^'], .number 3, .operator ['^'], .number 2,
      .operator ['-'], .number 4, .operator ['*'], .number 5]
    let power : Power := .join (.join (.one 2) ⟨['^'], rfl⟩ 3) ⟨['^'], rfl⟩ 2
    let product : Term := .join (.one (.one 4)) ⟨['*'], rfl⟩ (.one 5)
    let total : Total := .join (.one (.one power)) ⟨['-'], rfl⟩ product
    Calculable row ∧ total.tokens = row ∧ evaluateTokens row = total.value := by
  intro row power product total
  have hcalculable : Calculable row := by
    refine ⟨total.chain.alternating_tokens, ?_, ?_⟩
    · intro value hvalue
      have hvalues : value = 2 ∨ value = 3 ∨ value = 2 ∨ value = 4 ∨ value = 5 := by
        simpa [row] using hvalue
      rcases hvalues with rfl | rfl | rfl | rfl | rfl <;> decide
    · intro symbol hsymbol
      have hsymbols : symbol = ['^'] ∨ symbol = ['^'] ∨ symbol = ['-'] ∨ symbol = ['*'] := by
        simpa [row] using hsymbol
      rcases hsymbols with rfl | rfl | rfl | rfl <;> rfl
  obtain ⟨sum, -, hunique, hvalue⟩ := evaluateTokens_by_precedence hcalculable
  rw [← hunique total rfl] at hvalue
  exact ⟨hcalculable, rfl, hvalue⟩

/-! ## Foreign symbols -/

def Parts.tokens (parts : Parts) : List Token :=
  parts.chain.tokens

/-- The values of totals that foreign symbols divide, where each pass goes over all of them. -/
def Parts.values (parts : Parts) : Except Fault (Row isForeign Float) := do
  let totals ← Row.mapM (Row.mapM (Row.mapM Row.fold)) parts
  let sums ← Row.mapM (Row.mapM Row.fold) totals
  Row.mapM Row.fold sums

theorem first_chain (values : Row isForeign Float) :
    (values.chain Chain.single).first = values.first := by
  induction values with
  | one value => rfl
  | join front symbol value ih => exact ih

theorem reduce_parts (parts : Parts) :
    passes.foldlM Chain.reduce parts.chain =
      parts.values >>= fun values => pure (values.chain .single) := by
  have hother : ∀ pass : Pass, ∀ symbol, isForeign symbol = true → pass.knows symbol = false :=
    fun pass _ => not_knows_of_isForeign pass
  have hraising : Reduces raising Parts.chain (Row.mapM (Row.mapM (Row.mapM Row.fold)))
      (Row.chain (Row.chain (Row.chain Chain.single))) :=
    ((reduces_fold.row fun _ => scaling_not_raising).row fun _ => adding_not_raising).row
      (hother raising)
  have hscaling : Reduces scaling
      (Row.chain (Row.chain (Row.chain Chain.single) : Row adding.knows _ → _) : Row isForeign _ → _)
      (Row.mapM (Row.mapM Row.fold)) (Row.chain (Row.chain Chain.single)) :=
    (reduces_fold.row fun _ => adding_not_scaling).row (hother scaling)
  rw [hraising.passes hscaling (reduces_fold.row (hother adding)), Parts.values]
  simp only [bind_assoc]

theorem evaluateTokens_parts (parts : Parts) :
    evaluateTokens parts.tokens = parts.values >>= fun values =>
      if values.first.isFinite then pure values.first
      else throw (.resultOutOfRange values.first) := by
  rw [Parts.tokens, evaluateTokens_tokens, reduce_parts, bind_assoc]
  apply bind_congr
  intro values
  rw [pure_bind, first_chain]

/-- Tokens that alternate are totals with foreign symbols between them in one way. All of these are
reduced, but the value is that of the first. So there is no value exactly where a known operator
goes wrong, or the first number is not finite, and a foreign symbol is never a fault. -/
theorem evaluateTokens_by_parts {row : List Token} (h : Alternating row) :
    ∃ parts : Parts, parts.tokens = row ∧ (∀ other : Parts, other.tokens = row → other = parts) ∧
      (∀ value, evaluateTokens row = .ok value ↔
        value.isFinite = true ∧ ∃ values, parts.values = .ok values ∧ values.first = value) ∧
      ((∃ fault, evaluateTokens row = .error fault) ↔
        (∃ fault, parts.values = .error fault) ∨
          ∃ values, parts.values = .ok values ∧ values.first.isFinite = false) ∧
      ∀ fault, evaluateTokens row = .error fault → ArithmeticFault fault := by
  obtain ⟨chain, rfl⟩ := exists_chain h
  obtain ⟨parts, rfl⟩ := describes_parts.exists_eq chain fun symbol _ => by
    by_cases hforeign : isForeign symbol = true
    · rw [hforeign, Bool.true_or]
    · rw [knows_of_not_isForeign (by simpa using hforeign), Bool.or_true]
  refine ⟨parts, rfl, fun other hother => ?_, ?_, ?_, fun fault hfault => ?_⟩
  · exact describes_parts.injective other parts (Chain.tokens_injective hother)
  · intro value
    change evaluateTokens parts.tokens = _ ↔ _
    rw [evaluateTokens_parts, bind_eq_ok_iff]
    constructor
    · rintro ⟨values, hvalues, hvalue⟩
      split at hvalue
      · rename_i hfinite
        cases hvalue
        exact ⟨hfinite, values, hvalues, rfl⟩
      · cases hvalue
    · rintro ⟨hfinite, values, hvalues, rfl⟩
      exact ⟨values, hvalues, if_pos hfinite⟩
  · change (∃ fault, evaluateTokens parts.tokens = _) ↔ _
    rw [evaluateTokens_parts]
    cases hvalues : parts.values with
    | error fault => simp [bind, Except.bind]
    | ok values =>
      by_cases hfinite : values.first.isFinite = true
      · simp [bind, Except.bind, pure, Except.pure, hfinite]
      · simp [bind, Except.bind, throw, throwThe, MonadExceptOf.throw, hfinite]
  · exact kind_of_evaluateTokens (Chain.ofTokens_tokens _) hfault

/-- Behind a foreign symbol a division by zero is a fault all the same, since every part is
reduced. -/
theorem evaluateTokens_by_parts_quotient :
    let row : List Token :=
      [.number 2, .operator ['%'], .number 1, .operator ['/'], .number 0]
    Alternating row ∧ isForeign ['%'] = true ∧
      ∃ fault, evaluateTokens row = .error fault ∧ ArithmeticFault fault := by
  intro row
  let quotient : Term := .join (.one (.one 1)) ⟨['/'], rfl⟩ (.one 0)
  let parts : Parts := .join (.one (.one (.one (.one 2)))) ⟨['%'], rfl⟩ (.one quotient)
  have halternating : Alternating row := parts.chain.alternating_tokens
  obtain ⟨found, -, hunique, -, hfault, hkind⟩ := evaluateTokens_by_parts halternating
  obtain rfl : parts = found := hunique parts rfl
  obtain ⟨fault, hrow⟩ := hfault.mpr (.inl ⟨.divisionByZero, rfl⟩)
  exact ⟨halternating, rfl, fault, hrow, hkind fault hrow⟩

/-- A foreign symbol and everything behind it do not count. -/
theorem foreign_symbol_ignored :
    Alternating [.number 1, .operator ['%'], .number 2] ∧ isForeign ['%'] = true ∧
      evaluateTokens [.number 1, .operator ['%'], .number 2] = .ok 1 :=
  ⟨(Chain.mk 1 [(['%'], 2)]).alternating_tokens, rfl, rfl⟩

end RomanCalc.Expression
