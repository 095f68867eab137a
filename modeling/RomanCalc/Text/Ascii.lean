import RomanCalc.Text.Quoted

/-!
# Text on a basic terminal

A terminal that knows the basic characters only refuses a text with others. What it refuses is
named by the first run of such characters.
-/

namespace RomanCalc.Text

/-- Whether a character is basic. -/
def isAscii (c : Char) : Bool :=
  c.toNat < 0x80

/-- A run of characters that a basic terminal cannot show, inside a text. -/
structure Unencodable where
  /-- The first character of the run. -/
  char : Char
  /-- How many characters stand before the run. -/
  position : Nat
  /-- How many characters the run has. -/
  length : Nat
deriving DecidableEq

/-- The first run of a text that a basic terminal cannot show. -/
def firstUnencodable? (text : List Char) : Option Unencodable :=
  match text.dropWhile isAscii with
  | [] => none
  | c :: rest =>
    some ⟨c, (text.takeWhile isAscii).length, 1 + (rest.takeWhile fun d => !isAscii d).length⟩

/-- What is reported. -/
def Unencodable.message (run : Unencodable) : String :=
  let whole :=
    if run.length = 1 then
      " '" ++ String.ofList (escapeCode run.char) ++ "' in position " ++ toString run.position
    else
      "s in position " ++ toString run.position ++ "-" ++
        toString (run.position + run.length - 1)
  "'ascii' codec can't encode character" ++ whole ++ ": ordinal not in range(128)"

/-- Text with a question mark for each character that a basic terminal cannot show. -/
def replaceUnencodable (text : List Char) : List Char :=
  text.map fun c => if isAscii c then c else '?'

/-- A text is refused exactly when some character is not basic. -/
theorem firstUnencodable?_eq_none_iff {text : List Char} :
    firstUnencodable? text = none ↔ ∀ c ∈ text, isAscii c = true := by
  unfold firstUnencodable?
  induction text with
  | nil => simp
  | cons c rest ih =>
    by_cases h : isAscii c = true
    · simp only [List.dropWhile_cons_of_pos h, List.takeWhile_cons_of_pos h, List.mem_cons,
        forall_eq_or_imp, h, true_and, ← ih]
      split <;> simp
    · simp [List.dropWhile_cons_of_neg h, h]

end RomanCalc.Text
