/-!
# Lines

A text as its lines, and lines as a text. A newline ends a line, so what is left behind the last
newline is a line of its own unless it is empty.
-/

namespace RomanCalc.Text

/-- The lines of a text, without their newlines. -/
def lines : List Char → List (List Char)
  | [] => []
  | c :: rest =>
    if c = '\n' then [] :: lines rest
    else match lines rest with
      | [] => [[c]]
      | line :: more => (c :: line) :: more

/-- Lines as a text, each with a newline behind it. -/
def unlines (rows : List (List Char)) : List Char :=
  rows.flatMap (· ++ ['\n'])

theorem unlines_append (front back : List (List Char)) :
    unlines (front ++ back) = unlines front ++ unlines back :=
  List.flatMap_append

/-- A line reaches up to its newline. -/
theorem lines_append_newline {line : List Char} (h : '\n' ∉ line) (rest : List Char) :
    lines (line ++ '\n' :: rest) = line :: lines rest := by
  induction line with
  | nil => simp [lines]
  | cons c line ih =>
    have hc : c ≠ '\n' := by
      rintro rfl
      exact h List.mem_cons_self
    have hline : '\n' ∉ line := fun hmem => h (List.mem_cons_of_mem c hmem)
    simp [lines, hc, ih hline]

/-- Lines are read back from the text that they make. -/
theorem lines_unlines {rows : List (List Char)} (h : ∀ line ∈ rows, '\n' ∉ line) :
    lines (unlines rows) = rows := by
  induction rows with
  | nil => rfl
  | cons line rows ih =>
    have hrows : ∀ other ∈ rows, '\n' ∉ other := fun other hmem =>
      h other (List.mem_cons_of_mem line hmem)
    have hsplit : unlines (line :: rows) = line ++ '\n' :: unlines rows := by
      simp [unlines]
    rw [hsplit, lines_append_newline (h line List.mem_cons_self), ih hrows]

end RomanCalc.Text
