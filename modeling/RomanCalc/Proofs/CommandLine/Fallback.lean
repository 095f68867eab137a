import RomanCalc.Proofs.CommandLine.Printing
import RomanCalc.Proofs.Evaluation
import RomanCalc.Proofs.Number.Style
import RomanCalc.Proofs.Uncia.Plain

/-!
# Results on either terminal

A value is printed in lines, and where a basic terminal does not show one of them, whichever it is,
the numeral is printed with question marks instead of it (`printValue_of_not_shows`). So no result
fails on either terminal, and its numeral is printed once unless it is the line of the fraction that
is not shown: then the numeral stands there already and is repeated (`printEvaluation_once_iff`).
-/

namespace RomanCalc.CommandLine

/-! ## The lines of a value -/

/-- The line of a numeral. Zero, which has none, has a word. -/
def numeralLine (numeral : List Char) : List Char :=
  if numeral.isEmpty then "nulla".toList else numeral

/-- The line of a fraction with its Latin name. -/
def fractionLine (fraction : List Char) (name : String) : List Char :=
  "Fraction: ".toList ++ fraction ++ " (".toList ++ name.toList ++ [')']

/-- The line of the decimal number. -/
def decimalLine (value : Float) : List Char :=
  "Decimal: ".toList ++ Number.briefText value

section

variable {encoding : Encoding} {value : Float} {numeral fraction : List Char}

theorem fractionLine?_eq {kept : Bool} {name : String}
    (hkept : Uncia.hasFraction (.real value) = .ok kept)
    (hname : Uncia.fractionName (.real value) = .ok name) (fraction : List Char) :
    fractionLine? value fraction = if kept then some (fractionLine fraction name) else none := by
  unfold fractionLine?
  rw [hkept, hname]
  cases kept <;> rfl

/-- Every terminal shows the decimal number. -/
theorem print_decimal (encoding : Encoding) (value : Float) :
    encoding.printParts ["Decimal:".toList, Number.briefText value] =
      ⟨Text.unlines [decimalLine value], none⟩ := by
  have hword : encoding.Shows "Decimal:".toList := .inr (by decide)
  have hspace : encoding.Shows [' '] := .inr (by decide)
  have hbrief : encoding.Shows (Number.briefText value) :=
    .inr (Number.isPlain_write _ _ value).isBasic
  have hparts : ∀ text ∈ ["Decimal:".toList, [' '], Number.briefText value],
      encoding.Shows text := by
    simp only [List.forall_mem_cons, hword, hspace, hbrief, true_and]
    exact List.forall_mem_nil _
  have hline : ∀ text : List Char, [' '].intercalate ["Decimal:".toList, text] ++ ['\n'] =
      Text.unlines ["Decimal: ".toList ++ text] := by
    intro text
    simp [List.intercalate, Text.unlines]
  rw [Encoding.printParts_of_shows ["Decimal:".toList, Number.briefText value] hparts, hline]
  rfl

/-- What a terminal shows is printed, the numeral and the fraction where there is one, and behind
it the decimal number. -/
theorem printValue_of_shows (h : ∀ line ∈
    numeralLine numeral :: (fractionLine? value fraction).toList, encoding.Shows line) :
    printValue encoding value numeral fraction =
      ⟨Text.unlines (numeralLine numeral :: (fractionLine? value fraction).toList ++
        [decimalLine value]), none⟩ := by
  have hroman := Encoding.printLines_of_shows h
  unfold numeralLine at hroman ⊢
  unfold printValue
  simp only [hroman, print_decimal]
  rw [Text.unlines_append]
  rfl

/-- Where a terminal does not show one of the lines, the numeral is printed instead of it, as the
terminal renders it, and then the decimal number. -/
theorem printValue_of_not_shows {front back : List (List Char)} {line : List Char}
    (hlines : numeralLine numeral :: (fractionLine? value fraction).toList = front ++ line :: back)
    (hfront : ∀ line ∈ front, encoding.Shows line) (hline : ¬encoding.Shows line) :
    printValue encoding value numeral fraction =
      ⟨Text.unlines (front ++ [encoding.rendered (numeralLine numeral), decimalLine value]),
        none⟩ := by
  obtain ⟨failure, hroman⟩ := Encoding.printLines_of_not_shows hfront hline back
  obtain ⟨rfl, -⟩ := Encoding.not_shows_iff.mp hline
  have hrendered : Encoding.basic.printLine (Text.replaceUnencodable (numeralLine numeral)) =
      ⟨Text.replaceUnencodable (numeralLine numeral) ++ ['\n'], none⟩ :=
    Encoding.printLine_of_shows (Encoding.shows_rendered .basic (numeralLine numeral))
  rw [← hlines] at hroman
  unfold numeralLine at hroman hrendered ⊢
  unfold printValue
  simp only [hroman, hrendered, print_decimal, Printout.andThen]
  rw [Text.unlines_append, List.append_assoc]
  rfl

/-! ## Which lines are shown -/

theorem numeralLine_cases (numeral : List Char) :
    numeralLine numeral = numeral ∨ numeral = [] ∧ numeralLine numeral = "nulla".toList := by
  unfold numeralLine
  cases numeral with
  | nil => exact .inr ⟨rfl, rfl⟩
  | cons c rest => exact .inl rfl

theorem isBasic_numeralLine_iff {numeral : List Char} :
    Text.IsBasic (numeralLine numeral) ↔ Text.IsBasic numeral := by
  rcases numeralLine_cases numeral with hline | ⟨rfl, hline⟩
  · rw [hline]
  · rw [hline]
    exact iff_of_true (by decide) Text.isBasic_nil

theorem isBlank_of_mem_numeralLine (h : ∀ c ∈ numeral, Text.isBlank c = false) :
    ∀ c ∈ encoding.rendered (numeralLine numeral), Text.isBlank c = false := by
  have hline : ∀ c ∈ numeralLine numeral, Text.isBlank c = false := by
    rcases numeralLine_cases numeral with hline | ⟨-, hline⟩
    · rwa [hline]
    · have hword : Text.IsPlain "nulla".toList := by decide
      rw [hline]
      exact fun c hc => (hword c hc).2
  cases encoding with
  | universal => exact hline
  | basic =>
    intro c hc
    rcases Text.mem_of_mem_replaceUnencodable hc with rfl | hmem
    · decide
    · exact hline c hmem

theorem isBasic_fractionLine_iff {fraction : List Char} (t : Uncia.Twelfths) :
    Text.IsBasic (fractionLine fraction (Uncia.name t)) ↔ Text.IsBasic fraction := by
  have hname : Text.IsBasic (Uncia.name t).toList := by
    revert t
    decide
  have hopen : Text.IsBasic " (".toList := by decide
  have hword : Text.IsBasic "Fraction: ".toList := by decide
  have hclose : Text.IsBasic [')'] := by decide
  unfold fractionLine
  simp only [Text.isBasic_append, hword, hopen, hname, hclose, true_and, and_true]

/-! ## Which results are repeated -/

/-- A terminal repeats the numeral of a value where it shows the numeral, but not the fraction that
the value keeps: the twelfths have other than basic glyphs, or a whole is carried that has an
overlined letter. -/
def Encoding.Repeats (encoding : Encoding) (value : Float) : Prop :=
  encoding = .basic ∧ (Number.wholePart value).natAbs < 4000 ∧
    Uncia.hasFraction (.real value) = .ok true ∧
    (4000 ≤ (Uncia.split (magnitude value)).1 ∨
      (Uncia.split (magnitude value)).2 ∉ Uncia.basicTwelfths)

/-- A result is printed once: nothing fails, and there is a line for its numeral, as the terminal
renders it, at most one for its fraction and its Latin name, and one for its decimal number. -/
def PrintsOnce (encoding : Encoding) (value : Float) (numeral fraction : List Char)
    (printout : Printout) : Prop :=
  printout.stopped = none ∧ ∃ between : Option (List Char),
    (∀ line ∈ between, ∃ name, Uncia.fractionName (.real value) = .ok name ∧
      line = fractionLine fraction name) ∧
    Text.lines printout.written =
      encoding.rendered (numeralLine numeral) :: between.toList ++ [decimalLine value]

/-- A finite value with its two texts, and what is found of its fraction. -/
structure Written (value : Float) (numeral fraction : List Char) (kept : Bool)
    (twelfths : Uncia.Twelfths) : Prop where
  finite : value.isFinite = true
  numeral : Numeral.ofFloat value = .ok numeral
  fraction : Uncia.ofFloat value = .ok fraction
  kept : Uncia.hasFraction (.real value) = .ok kept
  name : Uncia.fractionName (.real value) = .ok (Uncia.name twelfths)

variable {kept : Bool} {t : Uncia.Twelfths}

theorem Written.repeats_iff (h : Written value numeral fraction kept t) :
    encoding.Repeats value ↔ encoding.Shows (numeralLine numeral) ∧ kept = true ∧
      ¬encoding.Shows (fractionLine fraction (Uncia.name t)) := by
  unfold Encoding.Repeats
  rw [h.kept, Except.ok.injEq, ← Numeral.isBasic_ofFloat_iff h.finite h.numeral, ← not_lt,
    ← not_and_or, ← Uncia.isBasic_ofFloat_iff h.finite h.fraction]
  cases encoding with
  | universal => simp [Encoding.Shows]
  | basic => simp [Encoding.Shows, isBasic_numeralLine_iff, isBasic_fractionLine_iff]

/-- The lines of a value whose numeral is not repeated. -/
def linesOnce (encoding : Encoding) (value : Float) (numeral fraction : List Char) (kept : Bool)
    (t : Uncia.Twelfths) : List (List Char) :=
  encoding.rendered (numeralLine numeral) ::
    (if kept = true ∧ encoding.Shows (numeralLine numeral) then
      [fractionLine fraction (Uncia.name t)] else []) ++ [decimalLine value]

theorem Written.printValue_of_repeats (h : Written value numeral fraction kept t)
    (hrepeats : encoding.Repeats value) :
    printValue encoding value numeral fraction =
      ⟨Text.unlines [numeralLine numeral, numeralLine numeral, decimalLine value], none⟩ := by
  obtain ⟨hnumeral, rfl, hfraction⟩ := h.repeats_iff.mp hrepeats
  have hlines : numeralLine numeral :: (fractionLine? value fraction).toList =
      [numeralLine numeral] ++ fractionLine fraction (Uncia.name t) :: [] := by
    rw [fractionLine?_eq h.kept h.name]
    rfl
  have hfront : ∀ line ∈ [numeralLine numeral], encoding.Shows line :=
    List.forall_mem_singleton.mpr hnumeral
  rw [printValue_of_not_shows hlines hfront hfraction, Encoding.rendered_of_shows hnumeral]
  rfl

theorem Written.printValue_of_not_repeats (h : Written value numeral fraction kept t)
    (hrepeats : ¬encoding.Repeats value) :
    printValue encoding value numeral fraction =
      ⟨Text.unlines (linesOnce encoding value numeral fraction kept t), none⟩ := by
  have hfractionLine := fractionLine?_eq h.kept h.name fraction
  unfold linesOnce
  by_cases hnumeral : encoding.Shows (numeralLine numeral)
  · have hshown : ∀ line ∈ numeralLine numeral :: (fractionLine? value fraction).toList,
        encoding.Shows line := by
      refine List.forall_mem_cons.mpr ⟨hnumeral, ?_⟩
      rw [hfractionLine]
      intro line hline
      cases kept with
      | false => cases hline
      | true =>
        obtain rfl := List.mem_singleton.mp hline
        by_contra hfraction
        exact hrepeats (h.repeats_iff.mpr ⟨hnumeral, rfl, hfraction⟩)
    rw [printValue_of_shows hshown, hfractionLine, Encoding.rendered_of_shows hnumeral]
    cases kept <;> simp [hnumeral]
  · have hprint := @printValue_of_not_shows encoding value numeral fraction []
      (fractionLine? value fraction).toList _ rfl (List.forall_mem_nil _) hnumeral
    rw [hprint]
    simp [hnumeral]

/-! ## Lines apart -/

theorem newline_not_mem {text : List Char} (h : ∀ c ∈ text, Text.isBlank c = false) :
    '\n' ∉ text := by
  intro hc
  exact absurd (h _ hc) (by decide)

theorem newline_not_mem_decimalLine (value : Float) : '\n' ∉ decimalLine value := by
  have hword : '\n' ∉ "Decimal: ".toList := by decide
  have hbrief : '\n' ∉ Number.briefText value :=
    newline_not_mem fun c hc => (Number.isPlain_write _ _ value c hc).2
  exact List.not_mem_append hword hbrief

theorem Written.isBlank_of_mem_numeralLine (h : Written value numeral fraction kept t)
    (encoding : Encoding) :
    ∀ c ∈ encoding.rendered (numeralLine numeral), Text.isBlank c = false :=
  CommandLine.isBlank_of_mem_numeralLine fun _ =>
    Numeral.isBlank_of_mem_ofFloat h.finite h.numeral

theorem Written.newline_not_mem_fractionLine (h : Written value numeral fraction kept t) :
    '\n' ∉ fractionLine fraction (Uncia.name t) := by
  have hfraction : '\n' ∉ fraction :=
    newline_not_mem fun _ => Uncia.isBlank_of_mem_ofFloat h.finite h.fraction
  have hname : ∀ u : Uncia.Twelfths, '\n' ∉ (Uncia.name u).toList := by decide
  have hword : '\n' ∉ "Fraction: ".toList := by decide
  have hopen : '\n' ∉ " (".toList := by decide
  have hclose : '\n' ∉ [')'] := by decide
  exact List.not_mem_append (List.not_mem_append (List.not_mem_append
    (List.not_mem_append hword hfraction) hopen) (hname t)) hclose

/-- The line of a fraction has blanks, which no numeral has. -/
theorem Written.rendered_ne_fractionLine (h : Written value numeral fraction kept t)
    (encoding : Encoding) (name : String) :
    encoding.rendered (numeralLine numeral) ≠ fractionLine fraction name := by
  intro heq
  have hspace : ' ' ∈ fractionLine fraction name := by
    have hword : ' ' ∈ "Fraction: ".toList := by decide
    unfold fractionLine
    simp only [List.mem_append]
    exact .inl (.inl (.inl (.inl hword)))
  rw [← heq] at hspace
  exact absurd (h.isBlank_of_mem_numeralLine encoding ' ' hspace) (by decide)

theorem Written.stopped_printValue (h : Written value numeral fraction kept t) :
    (printValue encoding value numeral fraction).stopped = none := by
  by_cases hrepeats : encoding.Repeats value
  · rw [h.printValue_of_repeats hrepeats]
  · rw [h.printValue_of_not_repeats hrepeats]

theorem Written.lines_repeated (h : Written value numeral fraction kept t)
    (hrepeats : encoding.Repeats value) :
    Text.lines (printValue encoding value numeral fraction).written =
      [numeralLine numeral, numeralLine numeral, decimalLine value] := by
  have hnumeral := newline_not_mem (h.isBlank_of_mem_numeralLine encoding)
  rw [Encoding.rendered_of_shows (h.repeats_iff.mp hrepeats).1] at hnumeral
  rw [h.printValue_of_repeats hrepeats]
  apply Text.lines_unlines
  simp only [List.forall_mem_cons]
  exact ⟨hnumeral, hnumeral, newline_not_mem_decimalLine value, List.forall_mem_nil _⟩

theorem Written.lines_once (h : Written value numeral fraction kept t)
    (hrepeats : ¬encoding.Repeats value) :
    Text.lines (printValue encoding value numeral fraction).written =
      linesOnce encoding value numeral fraction kept t := by
  have hnumeral := newline_not_mem (h.isBlank_of_mem_numeralLine encoding)
  have hbetween : ∀ line ∈ if kept = true ∧ encoding.Shows (numeralLine numeral) then
      [fractionLine fraction (Uncia.name t)] else [], '\n' ∉ line := by
    split
    · exact List.forall_mem_singleton.mpr h.newline_not_mem_fractionLine
    · exact List.forall_mem_nil _
  rw [h.printValue_of_not_repeats hrepeats]
  apply Text.lines_unlines
  exact List.forall_mem_append.mpr ⟨List.forall_mem_cons.mpr ⟨hnumeral, hbetween⟩,
    List.forall_mem_singleton.mpr (newline_not_mem_decimalLine value)⟩

/-- A result is printed once unless its numeral is repeated. -/
theorem Written.printsOnce_iff (h : Written value numeral fraction kept t) :
    PrintsOnce encoding value numeral fraction (printValue encoding value numeral fraction) ↔
      ¬encoding.Repeats value := by
  constructor
  · rintro ⟨-, between, hbetween, hlines⟩ hrepeats
    rw [h.lines_repeated hrepeats] at hlines
    cases between with
    | none =>
      have hlength : 3 = 2 := congrArg List.length hlines
      cases hlength
    | some line =>
      -- the second of the numerals would be the line of the fraction
      obtain ⟨name, -, rfl⟩ := hbetween line rfl
      obtain ⟨hfirst, hrest⟩ := List.cons.inj hlines
      obtain ⟨hsecond, -⟩ := List.cons.inj hrest
      exact h.rendered_ne_fractionLine encoding name (hfirst.symm.trans hsecond)
  · intro hrepeats
    refine ⟨by rw [h.printValue_of_not_repeats hrepeats],
      if kept = true ∧ encoding.Shows (numeralLine numeral) then
        some (fractionLine fraction (Uncia.name t)) else none, ?_, ?_⟩
    · intro line hline
      split at hline
      · exact ⟨_, h.name, (Option.mem_some.mp hline).symm⟩
      · cases hline
    · rw [h.lines_once hrepeats, linesOnce]
      split <;> rfl

end

/-- Printing a result fails on neither terminal, and the result is printed once, with a line for
the fraction where the value keeps one and the terminal shows the numeral. Only where the line of
the fraction is what a basic terminal does not show, the numeral is printed a second time in its
place. -/
theorem printEvaluation_once_iff {settings : Settings} {expression : Datum}
    {strategy : Option (List Char)} {evaluation : Evaluation}
    (hevaluation : evaluate settings expression strategy = .ok evaluation)
    (hok : evaluation.record.ok = true) (encoding : Encoding) :
    ∃ value numeral fraction kept t,
      evaluation.outcome = .written value numeral fraction ∧
      Written value numeral fraction kept t ∧
      (printEvaluation encoding .human evaluation).stopped = none ∧
      (PrintsOnce encoding value numeral fraction (printEvaluation encoding .human evaluation) ↔
        ¬encoding.Repeats value) ∧
      (¬encoding.Repeats value →
        Text.lines (printEvaluation encoding .human evaluation).written =
          linesOnce encoding value numeral fraction kept t) ∧
      (encoding.Repeats value →
        Text.lines (printEvaluation encoding .human evaluation).written =
          [numeralLine numeral, numeralLine numeral, decimalLine value]) := by
  obtain ⟨value, numeral, fraction, houtcome, hfinite, hnumeral, hfraction⟩ :=
    exists_written_of_ok hevaluation hok
  obtain ⟨kept, hkept⟩ := Uncia.exists_hasFraction hfinite hfraction
  have hwritten : Written value numeral fraction kept (Uncia.split value).2 :=
    ⟨hfinite, hnumeral, hfraction, hkept, Uncia.fractionName_of_isFinite hfinite⟩
  have hprint : printEvaluation encoding .human evaluation =
      printValue encoding value numeral fraction := by
    unfold printEvaluation
    rw [houtcome]
  rw [hprint]
  exact ⟨value, numeral, fraction, kept, _, houtcome, hwritten, hwritten.stopped_printValue,
    hwritten.printsOnce_iff, hwritten.lines_once, hwritten.lines_repeated⟩

/-- Above four thousand the numeral has question marks on a basic terminal, and the fraction has no
line. -/
theorem printEvaluation_once_iff_overlined :
    ∃ evaluation, evaluate .initial (.text "7999+1/2".toList) none = .ok evaluation ∧
      evaluation.record.ok = true ∧ ¬Encoding.basic.Repeats 7999.5 ∧
      (∃ numeral fraction, PrintsOnce .basic 7999.5 numeral fraction
        (printEvaluation .basic .human evaluation)) ∧
      Text.lines (printEvaluation .basic .human evaluation).written =
        ["V?MMCMXCIX".toList, "Decimal: 7999.5".toList] := by
  have hevaluation : evaluate .initial (.text "7999+1/2".toList) none =
      .ok (.under .precedence 1000 (.text "7999+1/2".toList)) := rfl
  have hvalue : (Evaluation.under .precedence 1000 (.text "7999+1/2".toList)).record.value =
      some 7999.5 := rfl
  have hrepeats : ¬Encoding.basic.Repeats 7999.5 := by
    rintro ⟨-, hlt, -⟩
    exact absurd hlt (by decide +kernel)
  obtain ⟨value, numeral, fraction, kept, t, houtcome, -, -, honce, -⟩ :=
    printEvaluation_once_iff hevaluation rfl .basic
  obtain rfl : value = 7999.5 := by
    rw [Evaluation.record, houtcome] at hvalue
    exact Option.some.inj hvalue
  exact ⟨_, hevaluation, rfl, hrepeats, ⟨numeral, fraction, honce.mpr hrepeats⟩, rfl⟩

/-- A twelfth has no numeral, and a basic terminal shows the word for that but not its dot. -/
theorem twelfth_repeated :
    ∃ evaluation, evaluate .initial (.text "1/12".toList) none = .ok evaluation ∧
      evaluation.record.ok = true ∧ evaluation.outcome = .written (1.0 / 12.0) [] ['·'] ∧
      Text.lines (printEvaluation .basic .human evaluation).written =
        ["nulla".toList, "nulla".toList, "Decimal: 0.0833333".toList] ∧
      ¬PrintsOnce .basic (1.0 / 12.0) [] ['·'] (printEvaluation .basic .human evaluation) := by
  have hevaluation : evaluate .initial (.text "1/12".toList) none =
      .ok (.under .precedence 1000 (.text "1/12".toList)) := rfl
  have hwritten : Written (1.0 / 12.0) [] ['·'] true (.ofNat 1) :=
    ⟨rfl, rfl, rfl, rfl, rfl⟩
  have hrepeats : Encoding.basic.Repeats (1.0 / 12.0) :=
    ⟨rfl, by decide +kernel, hwritten.kept, .inr (by decide +kernel)⟩
  exact ⟨_, hevaluation, rfl, rfl, rfl, fun honce => hwritten.printsOnce_iff.mp honce hrepeats⟩

end RomanCalc.CommandLine
