import RomanCalc.Text.CodeRange

/-!
# Blanks

Which characters separate words, and how text loses them: at its ends (`trim`), everywhere
(`removeBlanks`), or down to one space between words (`collapse`).
-/

namespace RomanCalc.Text

/-- The blanks: the white space of Unicode and the four information separators. -/
def blankRanges : List CodeRange :=
  [(0x09, 0x0D), (0x1C, 0x20), (0x85, 0x85), (0xA0, 0xA0), (0x1680, 0x1680), (0x2000, 0x200A),
    (0x2028, 0x2029), (0x202F, 0x202F), (0x205F, 0x205F), (0x3000, 0x3000)]

/-- Whether a character is a blank. -/
def isBlank (c : Char) : Bool :=
  inRanges blankRanges c.toNat

/-- Text without the blanks at its start. -/
def trimStart (text : List Char) : List Char :=
  text.dropWhile isBlank

/-- Text without the blanks at its end. -/
def trimEnd (text : List Char) : List Char :=
  (trimStart text.reverse).reverse

/-- Text without the blanks at either end. -/
def trim (text : List Char) : List Char :=
  trimEnd (trimStart text)

/-- Text without any blank. -/
def removeBlanks (text : List Char) : List Char :=
  text.filter fun c => !isBlank c

/-- Writes one space for each run of blanks, and nothing for a run that goes on from before. -/
def squeeze (afterBlank : Bool) : List Char → List Char
  | [] => []
  | c :: rest =>
    if isBlank c then
      if afterBlank then squeeze true rest else ' ' :: squeeze true rest
    else
      c :: squeeze false rest

/-- The words of a text with one space between neighbours. -/
def collapse (text : List Char) : List Char :=
  squeeze true (trimEnd text)

@[simp] theorem removeBlanks_append (s t : List Char) :
    removeBlanks (s ++ t) = removeBlanks s ++ removeBlanks t := by
  simp [removeBlanks]

/-- What is left when the blanks are removed is free of them. -/
theorem isBlank_of_mem_removeBlanks {c : Char} {text : List Char} (h : c ∈ removeBlanks text) :
    isBlank c = false := by
  simpa [removeBlanks] using (List.mem_filter.mp h).2

@[simp] theorem removeBlanks_removeBlanks (text : List Char) :
    removeBlanks (removeBlanks text) = removeBlanks text := by
  simp [removeBlanks]

end RomanCalc.Text
