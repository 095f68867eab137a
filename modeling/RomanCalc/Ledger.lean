import RomanCalc.Expression.Attempt
import RomanCalc.Uncia.Fraction

/-!
# The history of calculations

A ledger keeps the calculations recorded in it, in their order. One with a limit forgets the
oldest when it is full; the entries it holds are always the last ones recorded
(`toList_record`).
-/

namespace RomanCalc

/-- A recorded calculation. -/
structure Entry where
  /-- The operands; one alone where the calculation was not a single operation. -/
  operands : List Datum
  operator : Option (List Char)
  result : Datum

/-- The entry of a calculation, where the second operand may be absent. -/
def Entry.ofOperands (left : Datum) (operator : Option (List Char)) (right : Datum)
    (result : Datum) : Entry :=
  match right with
  | .absent => ⟨[left], operator, result⟩
  | right => ⟨[left, right], operator, result⟩

/-- The entry of a split expression with a value. -/
def Entry.ofBinary (binary : Expression.Binary) (value : Float) : Entry :=
  ⟨[.real binary.left, .real binary.right], some binary.symbol, .real value⟩

/-- A history of calculations. -/
structure Ledger where
  /-- How many entries are kept; none is no limit. -/
  limit : Option Nat
  /-- The entries, oldest first. -/
  toList : List Entry

namespace Ledger

/-- How far a limit can be from zero to be counted. -/
def countable : Nat := 0x7FFFFFFFFFFFFFFF

/-- A ledger without entries, whose limit is none for zero. -/
def empty (limit : Int) : Except LimitError Ledger :=
  if limit < -(countable : Int) - 1 ∨ (countable : Int) < limit then .error .tooLarge
  else if limit < 0 then .error .negative
  else .ok ⟨if limit = 0 then none else some limit.toNat, []⟩

/-- The last so many members of a list. -/
def lastOf {α : Type} (limit : Option Nat) (items : List α) : List α :=
  match limit with
  | none => items
  | some n => items.drop (items.length - n)

/-- A ledger with one more entry, and without the oldest if it was full. -/
def record (ledger : Ledger) (entry : Entry) : Ledger :=
  { ledger with toList := lastOf ledger.limit (ledger.toList ++ [entry]) }

/-- A ledger without its entries. -/
def clear (ledger : Ledger) : Ledger :=
  { ledger with toList := [] }

/-- The last entry recorded. -/
def last? (ledger : Ledger) : Option Entry :=
  ledger.toList.getLast?

/-- How many entries there are. -/
def size (ledger : Ledger) : Nat :=
  ledger.toList.length

@[simp] theorem toList_record (ledger : Ledger) (entry : Entry) :
    (ledger.record entry).toList = lastOf ledger.limit (ledger.toList ++ [entry]) := rfl

@[simp] theorem toList_clear (ledger : Ledger) : ledger.clear.toList = [] := rfl

end Ledger

/-- A number in brief. -/
def briefNumber : Datum → Except Failure (List Char)
  | .truth b => .ok (if b then ['1'] else ['0'])
  | .integer n => (Uncia.realOfInt n).map Number.briefText
  | .real x => .ok (Number.briefText x)
  | .absent => .error (.notNumber .nothing)
  | .text _ => .error (.notNumber .text)
  | .list _ => .error (.notNumber .list)

/-- The calculation of an entry: its operands with the sign of the operator between them, or its
only operand as text. -/
def Entry.calculation (entry : Entry) : Except Failure (List Char) :=
  match entry.operator with
  | some symbol =>
    (entry.operands.mapM briefNumber).map fun operands =>
      (' ' :: Operator.signOf symbol ++ [' ']).intercalate operands
  | none =>
    match entry.operands.head? with
    | some operand => operand.plain.mapError .badInteger
    | none => .ok []

/-- A number to the right of a field of three places. -/
def numbered (n : Nat) : List Char :=
  let digits := Nat.toDigits 10 n
  List.replicate (3 - digits.length) ' ' ++ digits

/-- The line of an entry. -/
def Entry.line (entry : Entry) (number : Nat) : Except Failure (List Char) := do
  let calculation ← entry.calculation
  let result ← briefNumber entry.result
  pure (numbered number ++ ". ".toList ++ calculation ++ " = ".toList ++ result)

/-- The lines of entries that are numbered from a number on. -/
def entryLines (number : Nat) : List Entry → Except Failure (List (List Char))
  | [] => .ok []
  | entry :: rest => do
    let line ← entry.line number
    let lines ← entryLines (number + 1) rest
    pure (line :: lines)

/-- The lines that show a ledger. -/
def Ledger.lines (ledger : Ledger) : Except Failure (List (List Char)) :=
  if ledger.toList.isEmpty then .ok ["No calculations yet.".toList]
  else entryLines 1 ledger.toList

end RomanCalc
