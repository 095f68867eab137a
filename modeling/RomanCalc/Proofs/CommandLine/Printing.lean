import RomanCalc.CommandLine.Session
import RomanCalc.Proofs.Text.Ascii

/-!
# Printing on a terminal

A terminal writes a text that it shows and nothing of any other (`write_of_shows`,
`write_of_not_shows`), so that lines are printed up to the first that it does not show
(`printLines_of_shows`, `printLines_of_not_shows`). No print statement fails on a terminal that
shows all characters, and a session on it goes on until it is left (`stopped_printEvaluation`,
`stopped_printLines`).
-/

namespace RomanCalc.CommandLine

namespace Encoding

/-- A terminal shows all characters of a text. -/
def Shows (encoding : Encoding) (text : List Char) : Prop :=
  encoding = universal ∨ Text.IsBasic text

instance (encoding : Encoding) : DecidablePred encoding.Shows :=
  fun text => inferInstanceAs (Decidable (encoding = universal ∨ Text.IsBasic text))

/-- A text as a terminal renders it, a basic one with question marks for what it does not show. -/
def rendered (encoding : Encoding) (text : List Char) : List Char :=
  match encoding with
  | universal => text
  | basic => Text.replaceUnencodable text

variable {encoding : Encoding}

theorem not_shows_iff {text : List Char} :
    ¬encoding.Shows text ↔ encoding = basic ∧ ¬Text.IsBasic text := by
  cases encoding <;> simp [Shows]

theorem shows_rendered (encoding : Encoding) (text : List Char) :
    encoding.Shows (encoding.rendered text) := by
  cases encoding with
  | universal => exact .inl rfl
  | basic => exact .inr (Text.isBasic_replaceUnencodable text)

theorem rendered_of_shows {text : List Char} (h : encoding.Shows text) :
    encoding.rendered text = text := by
  cases encoding with
  | universal => rfl
  | basic =>
    rcases h with huniversal | hbasic
    · cases huniversal
    · exact Text.replaceUnencodable_of_isBasic hbasic

theorem write_of_shows {text : List Char} (h : encoding.Shows text) :
    encoding.write text = ⟨text, none⟩ := by
  cases encoding with
  | universal => rfl
  | basic =>
    rcases h with huniversal | hbasic
    · cases huniversal
    · simp only [write, Text.firstUnencodable?_eq_none_iff.mpr hbasic]

/-- A text is written as a whole or not at all. -/
theorem write_of_not_shows {text : List Char} (h : ¬encoding.Shows text) :
    ∃ failure, encoding.write text = .failed failure := by
  obtain ⟨rfl, hbasic⟩ := not_shows_iff.mp h
  unfold write
  cases hrun : Text.firstUnencodable? text with
  | none => exact absurd (Text.firstUnencodable?_eq_none_iff.mp hrun) hbasic
  | some run => exact ⟨_, rfl⟩

theorem all_write_of_shows {texts : List (List Char)} (h : ∀ text ∈ texts, encoding.Shows text) :
    Printout.all (texts.map encoding.write) = ⟨texts.flatten, none⟩ := by
  induction texts with
  | nil => rfl
  | cons text texts ih =>
    rw [List.forall_mem_cons] at h
    change (encoding.write text).andThen (Printout.all (texts.map encoding.write)) = _
    rw [write_of_shows h.1, ih h.2]
    rfl

/-- Parts that a terminal shows, spaces included, are printed in a line. -/
theorem printParts_of_shows (parts : List (List Char))
    (h : ∀ text ∈ parts.intersperse [' '], encoding.Shows text) :
    encoding.printParts parts = ⟨[' '].intercalate parts ++ ['\n'], none⟩ := by
  have hnewline : encoding.Shows ['\n'] := .inr (by decide)
  have hall : ∀ text ∈ parts.intersperse [' '] ++ [['\n']], encoding.Shows text :=
    List.forall_mem_append.mpr ⟨h, List.forall_mem_singleton.mpr hnewline⟩
  rw [printParts, all_write_of_shows hall, List.flatten_append]
  rfl

theorem printLine_of_shows {line : List Char} (h : encoding.Shows line) :
    encoding.printLine line = ⟨line ++ ['\n'], none⟩ := by
  rw [printLine, printParts_of_shows [line] (List.forall_mem_singleton.mpr h)]
  simp [List.intercalate]

theorem printLine_of_not_shows {line : List Char} (h : ¬encoding.Shows line) :
    ∃ failure, encoding.printLine line = .failed failure := by
  obtain ⟨failure, hwrite⟩ := write_of_not_shows h
  refine ⟨failure, ?_⟩
  change (encoding.write line).andThen ((encoding.write ['\n']).andThen .nothing) = _
  rw [hwrite]
  rfl

/-- Lines that a terminal shows are printed. -/
theorem printLines_of_shows {lines : List (List Char)} (h : ∀ line ∈ lines, encoding.Shows line) :
    encoding.printLines lines = ⟨Text.unlines lines, none⟩ := by
  induction lines with
  | nil => rfl
  | cons line lines ih =>
    rw [List.forall_mem_cons] at h
    change (encoding.printLine line).andThen (encoding.printLines lines) = _
    rw [printLine_of_shows h.1, ih h.2]
    rfl

/-- Nothing is printed from the first line on that a terminal does not show. -/
theorem printLines_of_not_shows {front : List (List Char)} {line : List Char}
    (hfront : ∀ line ∈ front, encoding.Shows line) (hline : ¬encoding.Shows line)
    (back : List (List Char)) :
    ∃ failure, encoding.printLines (front ++ line :: back) =
      ⟨Text.unlines front, some failure⟩ := by
  induction front with
  | nil =>
    obtain ⟨failure, hprint⟩ := printLine_of_not_shows hline
    refine ⟨failure, ?_⟩
    change (encoding.printLine line).andThen (encoding.printLines back) = _
    rw [hprint]
    rfl
  | cons first front ih =>
    rw [List.forall_mem_cons] at hfront
    obtain ⟨failure, hprint⟩ := ih hfront.2
    refine ⟨failure, ?_⟩
    change (encoding.printLine first).andThen (encoding.printLines (front ++ line :: back)) = _
    rw [printLine_of_shows hfront.1, hprint]
    rfl

/-! ## A terminal that shows all characters -/

theorem shows_universal (text : List Char) : universal.Shows text :=
  .inl rfl

theorem stopped_printParts (parts : List (List Char)) :
    (universal.printParts parts).stopped = none := by
  rw [printParts_of_shows parts fun text _ => shows_universal text]

theorem stopped_printLine (line : List Char) : (universal.printLine line).stopped = none :=
  stopped_printParts [line]

theorem stopped_printLines (lines : List (List Char)) :
    (universal.printLines lines).stopped = none := by
  rw [printLines_of_shows fun line _ => shows_universal line]

end Encoding

theorem stopped_printValue (value : Float) (numeral fraction : List Char) :
    (printValue .universal value numeral fraction).stopped = none := by
  unfold printValue
  simp only [Encoding.stopped_printLines]
  unfold Printout.andThen
  rw [Encoding.stopped_printLines]
  exact Encoding.stopped_printParts _

/-! ## Records in JSON -/

theorem exists_jsonField {field : String × Datum} (h : ∃ text, field.2.json 1 = .ok text) :
    ∃ text, jsonField field = .ok text := by
  obtain ⟨text, htext⟩ := h
  unfold jsonField
  rw [htext]
  exact ⟨_, rfl⟩

theorem exists_jsonRest {fields : List (String × Datum)}
    (h : ∀ field ∈ fields, ∃ text, field.2.json 1 = .ok text) :
    ∃ text, jsonRest fields = .ok text := by
  induction fields with
  | nil => exact ⟨_, rfl⟩
  | cons field fields ih =>
    rw [List.forall_mem_cons] at h
    obtain ⟨text, htext⟩ := exists_jsonField h.1
    obtain ⟨rest, hrest⟩ := ih h.2
    rw [jsonRest, htext, hrest]
    exact ⟨_, rfl⟩

/-- Fields whose data have JSON make a JSON object. -/
theorem exists_jsonObject {fields : List (String × Datum)}
    (h : ∀ field ∈ fields, ∃ text, field.2.json 1 = .ok text) :
    ∃ text, jsonObject fields = .ok text := by
  cases fields with
  | nil => exact ⟨_, rfl⟩
  | cons field fields =>
    rw [List.forall_mem_cons] at h
    obtain ⟨text, htext⟩ := exists_jsonField h.1
    obtain ⟨rest, hrest⟩ := exists_jsonRest h.2
    rw [jsonObject, htext, hrest]
    exact ⟨_, rfl⟩

theorem exists_json_of_field? {α : Type} {name : String} {datum : α → Datum} {value : Option α}
    {field : String × Datum} (hdatum : ∀ a, value = some a → ∃ text, (datum a).json 1 = .ok text)
    (h : ResultRecord.field? name datum value = some field) :
    ∃ text, field.2.json 1 = .ok text := by
  obtain ⟨a, ha, rfl⟩ := Option.map_eq_some_iff.mp h
  exact hdatum a ha

/-- Of the fields of a record only its expression may have no JSON: the others are truth values,
doubles and texts. -/
theorem exists_json_of_mem_fields {record : ResultRecord} {field : String × Datum}
    (hexpression : ∃ text, record.expression.json 1 = .ok text) (h : field ∈ record.fields) :
    ∃ text, field.2.json 1 = .ok text := by
  have hgiven : ∀ expression, record.expression? = some expression →
      ∃ text, expression.json 1 = .ok text := by
    intro expression hsome
    unfold ResultRecord.expression? at hsome
    split at hsome
    · cases hsome
    · cases hsome
      exact hexpression
  unfold ResultRecord.fields at h
  rcases List.mem_cons.mp h with rfl | hmem
  · exact ⟨_, rfl⟩
  · obtain ⟨given, hgivens, hsome⟩ := List.mem_filterMap.mp hmem
    simp only [List.mem_cons, List.not_mem_nil, or_false] at hgivens
    rcases hgivens with rfl | rfl | rfl | rfl | rfl | rfl
    · exact exists_json_of_field? hgiven hsome
    all_goals exact exists_json_of_field? (fun _ _ => ⟨_, rfl⟩) hsome

/-- A terminal that shows all characters shows an evaluation, if its expression has JSON. -/
theorem stopped_printEvaluation (format : Format) {evaluation : Evaluation}
    (h : ∃ text, evaluation.expression.json 1 = .ok text) :
    (printEvaluation .universal format evaluation).stopped = none := by
  cases format with
  | json =>
    obtain ⟨text, htext⟩ : ∃ text, jsonObject evaluation.record.fields = .ok text := by
      apply exists_jsonObject
      intro field hfield
      apply exists_json_of_mem_fields _ hfield
      unfold Evaluation.record
      cases evaluation.outcome <;> exact h
    unfold printEvaluation
    simp only [htext]
    exact Encoding.stopped_printLine text
  | human =>
    unfold printEvaluation
    simp only
    cases evaluation.outcome with
    | written value numeral fraction => exact stopped_printValue value numeral fraction
    | unwritable value fault => exact Encoding.stopped_printParts _
    | rejected fault => exact Encoding.stopped_printParts _

end RomanCalc.CommandLine
