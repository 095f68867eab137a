import RomanCalc.Number.Reader
import RomanCalc.Text.Case

/-!
# Settings

What can be set from outside, and how it is read from an environment of named texts.
-/

namespace RomanCalc

/-- What can be set from outside. -/
structure Settings where
  /-- The most characters an expression may have. -/
  maxInputLength : Int
  /-- The name of the strategy that is used where none is named. -/
  defaultStrategy : List Char
  /-- How many calculations a session remembers; zero for all. -/
  historyLimit : Int
  /-- The name of the least level of the notes that are written. -/
  logLevel : List Char

namespace Settings

/-- The settings where nothing is set. -/
def initial : Settings :=
  ⟨1000, "precedence".toList, 100, "WARNING".toList⟩

/-- A whole number that may be set. -/
def intOr (fallback : Int) (value : Option (List Char)) : Except Number.IntegerError Int :=
  match value with
  | some text => Number.readInt text
  | none => .ok fallback

/-- The names of what can be set. -/
def names : List String :=
  ["MAX_INPUT_LENGTH", "DEFAULT_EVALUATOR", "HISTORY_LIMIT", "LOG_LEVEL"]

/-- The settings of an environment. A number that cannot be read is an error, the first of them
if there are several. -/
def ofEnvironment (lookup : String → Option (List Char)) :
    Except Number.IntegerError Settings := do
  let maxInputLength ← intOr initial.maxInputLength (lookup "MAX_INPUT_LENGTH")
  let historyLimit ← intOr initial.historyLimit (lookup "HISTORY_LIMIT")
  pure ⟨maxInputLength, ((lookup "DEFAULT_EVALUATOR").map Text.lower).getD initial.defaultStrategy,
    historyLimit, ((lookup "LOG_LEVEL").map Text.upper).getD initial.logLevel⟩

end Settings

end RomanCalc
