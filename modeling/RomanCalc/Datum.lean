import RomanCalc.Text.JsonString
import RomanCalc.Number.Reader
import RomanCalc.Number.Style

/-!
# Data from outside

Operands and expressions come from a caller who may pass any kind of value. The calculator
looks at the kind and says what it cannot use; what it shows of a datum is its literal
(`shown`), its text (`plain`) or its JSON (`json`), none of which a whole number of too many digits
has.
-/

namespace RomanCalc

/-- A value passed in from outside. -/
inductive Datum
  /-- Nothing was passed. -/
  | absent
  /-- A truth value. -/
  | truth (b : Bool)
  /-- A whole number of any size. -/
  | integer (n : Int)
  /-- A double. -/
  | real (x : Float)
  /-- A text. -/
  | text (s : List Char)
  /-- A list of data. -/
  | list (items : List Datum)

namespace Datum

/-- The literal of nothing. -/
def absentText : List Char := "None".toList

/-- The literal of a truth value. -/
def truthText (b : Bool) : List Char :=
  (if b then "True" else "False").toList

mutual

/-- The literal of a datum, as messages show it. -/
def shown : Datum → Except Number.IntegerError (List Char)
  | absent => .ok absentText
  | truth b => .ok (truthText b)
  | integer n => Number.writeInt n
  | real x => .ok (Number.fullText x)
  | text s => .ok (Text.quoted s)
  | list items => return '[' :: (← shownItems items)

/-- The literals of the items of a list that is open, up to its closing bracket. -/
def shownItems : List Datum → Except Number.IntegerError (List Char)
  | [] => .ok [']']
  | [item] => return (← shown item) ++ [']']
  | item :: items => return (← shown item) ++ ", ".toList ++ (← shownItems items)

end

/-- A datum as text: a text is itself. -/
def plain : Datum → Except Number.IntegerError (List Char)
  | text s => .ok s
  | d => d.shown

/-- A double in JSON. -/
def jsonNumber (x : Float) : List Char :=
  match Number.Binary64.ofFloat x with
  | .nan => "NaN".toList
  | .infinite negative => (if negative then "-Infinity" else "Infinity").toList
  | .finite .. => Number.fullText x

/-- A new line of JSON at a depth of nesting, two spaces for each level. -/
def jsonLine (depth : Nat) : List Char :=
  '\n' :: List.replicate (2 * depth) ' '

mutual

/-- A datum in JSON at a depth of nesting. -/
def json (depth : Nat) : Datum → Except Number.IntegerError (List Char)
  | absent => .ok "null".toList
  | truth b => .ok (if b then "true" else "false").toList
  | integer n => Number.writeInt n
  | real x => .ok (jsonNumber x)
  | text s => .ok (Text.jsonString s)
  | list [] => .ok "[]".toList
  | list (item :: items) =>
    return '[' :: jsonLine (depth + 1) ++ (← json (depth + 1) item) ++
      (← jsonItems (depth + 1) items) ++ jsonLine depth ++ [']']

/-- The further items of a JSON list, each on a line of its own. -/
def jsonItems (depth : Nat) : List Datum → Except Number.IntegerError (List Char)
  | [] => .ok []
  | item :: items =>
    return ',' :: jsonLine depth ++ (← json depth item) ++ (← jsonItems depth items)

end

end Datum

/-- The name of a field and its datum, in JSON inside an object at the outermost level. -/
def jsonField (field : String × Datum) : Except Number.IntegerError (List Char) :=
  return Datum.jsonLine 1 ++ Text.jsonString field.1.toList ++ ": ".toList ++ (← field.2.json 1)

/-- The further fields of an object that is open, up to its closing brace. -/
def jsonRest : List (String × Datum) → Except Number.IntegerError (List Char)
  | [] => .ok "\n\x7d".toList
  | field :: fields => return ',' :: (← jsonField field) ++ (← jsonRest fields)

/-- Named data as a JSON object. -/
def jsonObject : List (String × Datum) → Except Number.IntegerError (List Char)
  | [] => .ok "\x7b\x7d".toList
  | field :: fields => return '\x7b' :: (← jsonField field) ++ (← jsonRest fields)

end RomanCalc
