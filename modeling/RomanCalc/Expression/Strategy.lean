import RomanCalc.Expression.Binary
import RomanCalc.Expression.Reduction
import RomanCalc.Settings

/-!
# Strategies of evaluation

An expression is evaluated either as a whole, by precedence, or as a single operation. A
strategy is chosen by its name in any case, or by the settings.
-/

namespace RomanCalc

namespace Expression

/-- How an expression is evaluated. -/
inductive Strategy
  /-- As a whole, by the precedence of its operators. -/
  | precedence
  /-- As one operation. -/
  | binary
deriving DecidableEq

namespace Strategy

/-- The name of a strategy. -/
def name : Strategy → List Char
  | precedence => "precedence".toList
  | binary => "binary".toList

/-- The strategies in the order of their names. -/
def all : List Strategy := [binary, precedence]

/-- The strategy with a name. -/
def ofName? (name : List Char) : Option Strategy :=
  all.find? fun strategy => strategy.name = name

/-- The name that is asked for: the one given, unless it is empty, or the one of the settings. -/
def chosenName (settings : Settings) (name : Option (List Char)) : List Char :=
  let given := name.getD []
  Text.lower (if given.isEmpty then settings.defaultStrategy else given)

/-- The strategy with the name that is asked for. -/
def choose (settings : Settings) (name : Option (List Char)) : Except Failure Strategy :=
  let chosen := chosenName settings name
  match ofName? chosen with
  | some strategy => .ok strategy
  | none => .error (.unknownStrategy chosen)

/-- The value of an expression under a strategy. -/
def evaluate (strategy : Strategy) (limit : Int) (expression : Datum) : Except Fault Float :=
  match strategy with
  | precedence => do
    let clean ← checkStructure limit expression
    let row ← tokens clean
    evaluateTokens row
  | binary => do
    let parts ← split limit expression
    parts.value

end Strategy

end Expression

end RomanCalc
