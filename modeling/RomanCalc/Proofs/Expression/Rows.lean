import RomanCalc.Expression.Reduction

/-!
# Chains as rows of chains

A chain is cut at the symbols of a kind into a row of shorter chains, which have no symbol of that
kind any more (`Row`). The cut chains are known by their rows and all chains can be cut: when every
chain with symbols of one kind is described once, and another kind of symbols stands between such
descriptions, then the rows describe every chain with symbols of both kinds once (`Describes.row`).
-/

namespace RomanCalc.Expression

/-! ## Joining chains -/

namespace Chain

/-- A number without any operator. -/
def single (value : Float) : Chain := ⟨value, []⟩

/-- A chain with a symbol and another chain behind it. -/
def join (front : Chain) (symbol : List Char) (back : Chain) : Chain :=
  ⟨front.first, front.rest ++ (symbol, back.first) :: back.rest⟩

def symbols (chain : Chain) : List (List Char) :=
  chain.rest.map Prod.fst

@[simp] theorem symbols_single (value : Float) : (single value).symbols = [] := rfl

@[simp] theorem symbols_join (front : Chain) (symbol : List Char) (back : Chain) :
    (front.join symbol back).symbols = front.symbols ++ symbol :: back.symbols := by
  simp [symbols, join]

/-- The tokens that are read as a chain. -/
def tokens (chain : Chain) : List Token :=
  .number chain.first :: chain.rest.flatMap fun step => [.operator step.1, .number step.2]

theorem tokens_join (value : Float) (symbol : List Char) (back : Chain) :
    ((single value).join symbol back).tokens =
      .number value :: .operator symbol :: back.tokens := rfl

theorem ofTokens_tokens (chain : Chain) : Chain.ofTokens chain.tokens = .ok chain := by
  obtain ⟨first, rest⟩ := chain
  have hrest : chainRest (rest.flatMap fun step => [.operator step.1, .number step.2]) =
      .ok rest := by
    induction rest with
    | nil => rfl
    | cons step rest ih =>
      change (chainRest (rest.flatMap _) >>= _) = _
      rw [ih]
      rfl
  change (chainRest _).map _ = _
  rw [hrest]
  rfl

theorem tokens_injective {a b : Chain} (h : a.tokens = b.tokens) : a = b := by
  apply Except.ok.inj (ε := Fault)
  rw [← ofTokens_tokens a, ← ofTokens_tokens b, h]

theorem number_mem_tokens {chain : Chain} {value : Float} :
    .number value ∈ chain.tokens ↔ value = chain.first ∨ ∃ step ∈ chain.rest, value = step.2 := by
  simp [tokens]

theorem operator_mem_tokens {chain : Chain} {symbol : List Char} :
    .operator symbol ∈ chain.tokens ↔ symbol ∈ chain.symbols := by
  simp [tokens, symbols, eq_comm]

theorem join_join (a : Chain) (s : List Char) (b : Chain) (t : List Char) (c : Chain) :
    (a.join s b).join t c = a.join s (b.join t c) := by
  simp [join]

theorem eq_of_parts {a b : Chain} (hfirst : a.first = b.first) (hrest : a.rest = b.rest) :
    a = b := by
  cases a
  cases b
  cases hfirst
  cases hrest
  rfl

/-- Every chain is built from its first number by joining one number after the other. -/
theorem join_induction {P : Chain → Prop} (hsingle : ∀ value, P (single value))
    (hjoin : ∀ front symbol value, P front → P (join front symbol (single value)))
    (chain : Chain) : P chain := by
  obtain ⟨value, rest⟩ := chain
  induction hn : rest.length generalizing rest with
  | zero =>
    rw [List.length_eq_zero_iff.mp hn]
    exact hsingle value
  | succ n ih =>
    rcases List.eq_nil_or_concat rest with rfl | ⟨before, ⟨symbol, last⟩, rfl⟩
    · cases hn
    · have hbefore : before.length = n := by simpa using hn
      simpa [join, single] using hjoin ⟨value, before⟩ symbol last (ih before hbefore)

end Chain

/-- Two lists with a marked member each, and no marked member behind it, are equal in parts. -/
theorem eq_of_last_marked {α : Type} {p : α → Prop} {a b s t : List α} {x y : α} (hx : p x)
    (hy : p y) (hs : ∀ z ∈ s, ¬p z) (ht : ∀ z ∈ t, ¬p z) (h : a ++ x :: s = b ++ y :: t) :
    a = b ∧ x = y ∧ s = t := by
  rcases List.append_eq_append_iff.mp h with ⟨c, rfl, hc⟩ | ⟨c, rfl, hc⟩
  · cases c with
    | nil =>
      obtain ⟨rfl, rfl⟩ := List.cons.inj hc
      exact ⟨(List.append_nil a).symm, rfl, rfl⟩
    | cons d c =>
      obtain ⟨-, rfl⟩ := List.cons.inj hc
      exact absurd hy (hs y (by simp))
  · cases c with
    | nil =>
      obtain ⟨rfl, rfl⟩ := List.cons.inj hc
      exact ⟨List.append_nil b, rfl, rfl⟩
    | cons d c =>
      obtain ⟨-, rfl⟩ := List.cons.inj hc
      exact absurd hx (ht x (by simp))

/-- A chain is cut at the last symbol of a kind in one way. -/
theorem Chain.join_inj {kind : List Char → Bool} {front front' back back' : Chain}
    {s t : List Char} (hs : kind s = true) (ht : kind t = true)
    (hback : ∀ symbol ∈ back.symbols, kind symbol = false)
    (hback' : ∀ symbol ∈ back'.symbols, kind symbol = false)
    (h : front.join s back = front'.join t back') : front = front' ∧ s = t ∧ back = back' := by
  have hfree : ∀ {chain : Chain}, (∀ symbol ∈ chain.symbols, kind symbol = false) →
      ∀ step ∈ chain.rest, ¬kind step.1 = true := by
    intro chain hchain step hstep
    simp [hchain step.1 (List.mem_map_of_mem hstep)]
  obtain ⟨hfirst, hrest⟩ := Chain.mk.inj h
  obtain ⟨hfront, hstep, hlast⟩ := eq_of_last_marked (p := fun step => kind step.1 = true)
    hs ht (hfree hback) (hfree hback') hrest
  obtain ⟨hsymbol, hvalue⟩ := Prod.mk.inj hstep
  exact ⟨eq_of_parts hfirst hfront, hsymbol, eq_of_parts hvalue hlast⟩

/-! ## Rows -/

/-- Members that are joined from the left by symbols of a kind. -/
inductive Row (kind : List Char → Bool) (α : Type)
  | one (a : α)
  | join (front : Row kind α) (symbol : { symbol // kind symbol = true }) (a : α)

namespace Row

variable {kind : List Char → Bool} {α β : Type}

def first : Row kind α → α
  | one a => a
  | join front _ _ => front.first

/-- A row as a chain, where its members describe chains. -/
def chain (member : α → Chain) : Row kind α → Chain
  | one a => member a
  | join front symbol a => (front.chain member).join symbol (member a)

/-- Works on every member from left to right, up to the first fault. -/
def mapM (f : α → Except Fault β) : Row kind α → Except Fault (Row kind β)
  | one a => do
    let b ← f a
    pure (one b)
  | join front symbol a => do
    let done ← front.mapM f
    let b ← f a
    pure (join done symbol b)

/-- Applies the operators between numbers from left to right, up to the first fault. -/
def fold : Row kind Float → Except Fault Float
  | one value => pure value
  | join front symbol value => do
    let left ← front.fold
    apply left symbol value

end Row

/-! ## Describing chains -/

/-- Every chain whose symbols are of a kind is described by one member of a type, and no other
chain is. -/
structure Describes {α : Type} (kind : List Char → Bool) (chain : α → Chain) : Prop where
  symbols : ∀ a, ∀ symbol ∈ (chain a).symbols, kind symbol = true
  injective : ∀ a b, chain a = chain b → a = b
  exists_eq : ∀ c : Chain, (∀ symbol ∈ c.symbols, kind symbol = true) → ∃ a, chain a = c

/-- Numbers describe the chains without symbols. -/
theorem describes_single : Describes (fun _ => false) Chain.single where
  symbols := by simp
  injective := by
    intro a b h
    cases h
    rfl
  exists_eq := by
    intro c h
    cases c using Chain.join_induction with
    | hsingle value => exact ⟨value, rfl⟩
    | hjoin front symbol value => simpa using h symbol (by simp)

namespace Describes

variable {α : Type} {kind inner : List Char → Bool} {member : α → Chain}

theorem symbols_row (h : Describes inner member) (row : Row kind α) :
    ∀ symbol ∈ (row.chain member).symbols, (kind symbol || inner symbol) = true := by
  induction row with
  | one a =>
    intro symbol hsymbol
    simp [h.symbols a symbol hsymbol]
  | join front s a ih =>
    intro symbol hsymbol
    rw [Row.chain, Chain.symbols_join, List.mem_append, List.mem_cons] at hsymbol
    rcases hsymbol with hfront | rfl | hlast
    · exact ih symbol hfront
    · simp [s.2]
    · simp [h.symbols a symbol hlast]

theorem injective_row (h : Describes inner member)
    (hdisjoint : ∀ symbol, kind symbol = true → inner symbol = false) (row other : Row kind α)
    (heq : row.chain member = other.chain member) : row = other := by
  have hfree : ∀ a, ∀ symbol ∈ (member a).symbols, kind symbol = false := by
    intro a symbol hsymbol
    by_cases hkind : kind symbol = true
    · have hinner := h.symbols a symbol hsymbol
      rw [hdisjoint symbol hkind] at hinner
      cases hinner
    · simpa using hkind
  have hnot : ∀ (a : α) (front : Chain) (s : { symbol // kind symbol = true }) (back : Chain),
      member a ≠ front.join s back := by
    intro a front s back hjoin
    have hs := hfree a s (by simp [hjoin])
    rw [s.2] at hs
    cases hs
  induction row generalizing other with
  | one a =>
    cases other with
    | one b => rw [h.injective a b heq]
    | join front s b => exact absurd heq (hnot a _ s _)
  | join front s a ih =>
    cases other with
    | one b => exact absurd heq.symm (hnot b _ s _)
    | join front' t b =>
      obtain ⟨hfront, hsymbol, hlast⟩ := Chain.join_inj s.2 t.2 (hfree a) (hfree b) heq
      rw [ih front' hfront, Subtype.ext hsymbol, h.injective a b hlast]

/-- A row whose last member can be made longer can be made longer itself. -/
theorem exists_longer {symbol : List Char} {value : Float}
    (h : ∀ a, ∃ b, member b = (member a).join symbol (.single value)) (row : Row kind α) :
    ∃ other : Row kind α, other.chain member = (row.chain member).join symbol (.single value) := by
  cases row with
  | one a =>
    obtain ⟨b, hb⟩ := h a
    exact ⟨.one b, hb⟩
  | join front s a =>
    obtain ⟨b, hb⟩ := h a
    exact ⟨.join front s b, by rw [Row.chain, Row.chain, hb, Chain.join_join]⟩

theorem exists_row (h : Describes inner member) (c : Chain)
    (hc : ∀ symbol ∈ c.symbols, (kind symbol || inner symbol) = true) :
    ∃ row : Row kind α, row.chain member = c := by
  have hnumber : ∀ value, ∃ a, member a = .single value := by
    intro value
    exact h.exists_eq _ (by simp)
  induction c using Chain.join_induction with
  | hsingle value =>
    obtain ⟨a, ha⟩ := hnumber value
    exact ⟨.one a, ha⟩
  | hjoin front symbol value ih =>
    obtain ⟨row, rfl⟩ := ih (fun s hs => hc s (by simp [hs]))
    by_cases hkind : kind symbol = true
    · obtain ⟨a, ha⟩ := hnumber value
      exact ⟨.join row ⟨symbol, hkind⟩ a, by rw [Row.chain, ha]⟩
    · -- a symbol of the inner kind stays within the last member
      have hinner : inner symbol = true := by
        simpa [hkind] using hc symbol (by simp)
      apply exists_longer
      intro a
      apply h.exists_eq
      intro s hs
      simp only [Chain.symbols_join, Chain.symbols_single, List.mem_append,
        List.mem_singleton] at hs
      rcases hs with hs | rfl
      · exact h.symbols a s hs
      · exact hinner

/-- Rows of members that describe chains describe the chains that have another kind of symbols as
well. -/
theorem row (h : Describes inner member)
    (hdisjoint : ∀ symbol, kind symbol = true → inner symbol = false) :
    Describes (fun symbol => kind symbol || inner symbol) (Row.chain member : Row kind α → Chain) where
  symbols := h.symbols_row
  injective := h.injective_row hdisjoint
  exists_eq := h.exists_row

end Describes

end RomanCalc.Expression
