import RomanCalc.Settings

/-!
# Notes

What the calculator notes of its work, for whoever looks for the cause of an answer. A note has a
level and comes from a part of the calculator; notes below the level that is asked for are not
written.
-/

namespace RomanCalc.Journal

/-- How much a note matters. -/
inductive Level
  | debug
  | info
  | warning
  | error
  | critical
deriving DecidableEq

/-- The rank of a level. -/
def Level.rank : Level → Nat
  | debug => 10
  | info => 20
  | warning => 30
  | error => 40
  | critical => 50

/-- The name of a level in a line. -/
def Level.name : Level → String
  | debug => "DEBUG"
  | info => "INFO"
  | warning => "WARNING"
  | error => "ERROR"
  | critical => "CRITICAL"

/-- The level that a name asks for, in any case. An unknown name asks for warnings. -/
def Level.ofName (name : List Char) : Level :=
  match String.ofList (Text.upper name) with
  | "DEBUG" => debug
  | "INFO" => info
  | "ERROR" => error
  | "CRITICAL" | "FATAL" => critical
  | _ => warning

/-- The level that is asked for: by the name given, unless it is empty, or by the settings. -/
def Level.choose (settings : Settings) (name : Option (List Char)) : Level :=
  let given := name.getD []
  ofName (if given.isEmpty then settings.logLevel else given)

/-- The parts of the calculator that make notes. -/
inductive Source
  | expression
  | calculator
  | numerals
  | api
  | cli
deriving DecidableEq

/-- The name of a part in a line. -/
def Source.name : Source → String
  | expression => "romanum.expression"
  | calculator => "romanum.calculator"
  | numerals => "romanum.numerals"
  | api => "romanum.api"
  | cli => "romanum.cli"

/-- A note. -/
structure Note where
  level : Level
  source : Source
  message : List Char

/-- The line of a note. -/
def Note.line (note : Note) : String :=
  "[" ++ note.level.name ++ "] " ++ note.source.name ++ ": " ++ String.ofList note.message

/-- The lines of the notes that are written where a level is asked for. -/
def lines (level : Level) (notes : List Note) : List String :=
  (notes.filter fun note => level.rank ≤ note.level.rank).map Note.line

end RomanCalc.Journal
