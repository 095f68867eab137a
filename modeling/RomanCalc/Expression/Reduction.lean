import RomanCalc.Expression.Token

/-!
# The value of a row of tokens

Tokens are reduced in three passes from left to right: powers, then products and quotients, then
sums and differences. Operators of one pass group from the left.
-/

namespace RomanCalc.Expression

/-- Numbers with operators between them: the first number, and each operator with the number
behind it. -/
structure Chain where
  first : Float
  rest : List (List Char × Float)

/-- A pass: the operators that it reduces. -/
abbrev Pass := Operator → Bool

/-- The passes in their order. -/
def passes : List Pass :=
  [fun op => op = .power, fun op => op = .multiply || op = .divide,
    fun op => op = .add || op = .subtract]

/-- Reduces the operators of a pass behind a number. All others keep their place, also those
that no pass knows. -/
def reduceFrom (pass : Pass) (first : Float) : List (List Char × Float) → Except Fault Chain
  | [] => .ok ⟨first, []⟩
  | (symbol, value) :: rest =>
    match (Operator.ofText? symbol).filter pass with
    | some op => do
      let result ← op.apply first value
      reduceFrom pass result rest
    | none => do
      let chain ← reduceFrom pass value rest
      pure ⟨first, (symbol, chain.first) :: chain.rest⟩

/-- Reduces the operators of a pass. -/
def Chain.reduce (chain : Chain) (pass : Pass) : Except Fault Chain :=
  reduceFrom pass chain.first chain.rest

/-- Reads the operators and numbers behind a number. -/
def chainRest : List Token → Except Fault (List (List Char × Float))
  | [] => .ok []
  | [.operator _] => .error .endsWithOperator
  | .operator symbol :: .number value :: rest => do
    let more ← chainRest rest
    pure ((symbol, value) :: more)
  | _ => .error .notAlternating

/-- Tokens as a chain. -/
def Chain.ofTokens : List Token → Except Fault Chain
  | [] => .error .nothingToEvaluate
  | .number value :: rest => (chainRest rest).map (Chain.mk value)
  | .operator _ :: _ => .error .notAlternating

/-- The value of a row of tokens. -/
def evaluateTokens (row : List Token) : Except Fault Float := do
  let chain ← Chain.ofTokens row
  let reduced ← passes.foldlM Chain.reduce chain
  if reduced.first.isFinite then pure reduced.first
  else throw (.resultOutOfRange reduced.first)

end RomanCalc.Expression
