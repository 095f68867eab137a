import Mathlib.Data.List.Chain
import RomanCalc.Keypad.Replay
import RomanCalc.Proofs.Keypad.Typing
import RomanCalc.Proofs.Numeral.Capitals

/-!
# Runs of a replay

A replay leads from the empty display through displays whose run is nothing, a numeral or a dead end
(`Possible`, `EndsIn.exists_replayKey`, `exists_endsIn_replayKeys`): a letter is taken only where it
makes such a run, and any other key ends the run and starts at most one letter of its own. At a dead
end all letters are ignored (`EndsIn.replayKeys_letters`), and the lines of the keys say so
(`replay_runs`).
-/

namespace RomanCalc.Keypad

/-! ## Keys that are no letters -/

/-- Behind a key that is no letter, at most one letter is being typed. -/
theorem exists_endsIn_press (display : List Char) {key : Char} (hkey : isLetterChar key = false) :
    ∃ before run, EndsIn (press display [key]) before run ∧ run.length ≤ 1 := by
  obtain ⟨⟨d, hd, hother⟩, hlength⟩ := Numeral.trailingRun_upperChar hkey
  obtain ⟨front, hsplit, hlast⟩ := Numeral.exists_trailingRun (Text.upperChar key)
  obtain ⟨run, hrun⟩ := Numeral.exists_letters
    fun c (hc : c ∈ Numeral.trailingRun (Text.upperChar key)) =>
      Numeral.isLetterChar_of_mem_trailingRun hc
  have hfront : front ≠ [] := by
    rintro rfl
    rw [List.nil_append] at hsplit
    rw [hsplit] at hd
    rw [Numeral.isLetterChar_of_mem_trailingRun hd] at hother
    cases hother
  have hbefore : ∀ c, (display ++ front).getLast? = some c → isLetterChar c = false := by
    intro c hc
    rw [List.getLast?_append, Option.or_of_isSome (by simpa using hfront)] at hc
    exact hlast c hc
  have hpress : press display [key] =
      refresh (display ++ front ++ Numeral.trailingRun (Text.upperChar key)) := by
    rw [press, Text.upper_cons, Text.upper_nil, List.append_nil, List.append_assoc, ← hsplit]
  refine ⟨refresh (display ++ front), run, ?_, ?_⟩
  · rw [hpress]
    exact endsIn_refresh hbefore hrun
  · rw [Numeral.length_of_letters hrun]
    exact hlength

/-! ## The runs of a replay -/

/-- The runs that a replay leads to: nothing, a numeral, or one of the three dead ends. -/
def Possible (run : List Letter) : Prop :=
  run = [] ∨ Numeral.isWellFormed run = true ∨ run ∈ Numeral.deadEnds

theorem possible_of_length_le_one {run : List Letter} (h : run.length ≤ 1) : Possible run := by
  match run, h with
  | [], _ => exact .inl rfl
  | [l], _ => exact .inr (.inl (Numeral.isWellFormed_letter l))

/-- The display after keys of a replay. -/
def replayKeys (display keys : List Char) : List Char :=
  keys.foldl replayKey display

theorem replayKeys_append (display front back : List Char) :
    replayKeys display (front ++ back) = replayKeys (replayKeys display front) back :=
  List.foldl_append

namespace EndsIn

variable {display before : List Char} {run : List Letter}

/-- A key leads from a possible run to a possible run. An ignored one changes nothing. -/
theorem exists_replayKey (h : EndsIn display before run) (hrun : Possible run) (key : Char) :
    ∃ before' run', EndsIn (replayKey display key) before' run' ∧ Possible run' := by
  unfold replayKey
  by_cases hdisabled : isDisabled display key = true
  · rw [if_pos hdisabled]
    exact ⟨before, run, h, hrun⟩
  rw [if_neg hdisabled]
  cases hkey : Letter.ofChar? key with
  | none =>
    obtain ⟨before', run', hends, hlength⟩ :=
      exists_endsIn_press display (isLetterChar_eq_false_iff.mpr hkey)
    exact ⟨before', run', hends, possible_of_length_le_one hlength⟩
  | some l =>
    have htaken : Numeral.mayAppend display [key] = true := by
      simpa [isDisabled, isLetterChar, hkey] using hdisabled
    exact ⟨before, run ++ [l], h.letter hkey,
      .inr ((Numeral.mayAppend_iff h.trailingRun_eq hkey).mp htaken)⟩

theorem exists_replayKeys (h : EndsIn display before run) (hrun : Possible run)
    (keys : List Char) :
    ∃ before' run', EndsIn (replayKeys display keys) before' run' ∧ Possible run' := by
  induction keys generalizing display before run with
  | nil => exact ⟨before, run, h, hrun⟩
  | cons key keys ih =>
    obtain ⟨before', run', hends, hpossible⟩ := h.exists_replayKey hrun key
    exact ih hends hpossible

/-- At a dead end every letter is ignored. -/
theorem isDisabled_letter (h : EndsIn display before run) (hrun : run ∈ Numeral.deadEnds)
    {key : Char} (hkey : isLetterChar key = true) : isDisabled display key = true := by
  obtain ⟨l, hl⟩ := Option.isSome_iff_exists.mp hkey
  have hrefused : Numeral.mayAppend display [key] = false := by
    rw [Bool.eq_false_iff]
    intro htaken
    rw [Numeral.mayAppend_iff h.trailingRun_eq hl, ← Numeral.mem_nextLetters_iff] at htaken
    exact Numeral.not_mem_nextLetters_deadEnd hrun l htaken
  rw [isDisabled, hkey, hrefused]
  rfl

/-- Letters that are typed at a dead end do not change the display. -/
theorem replayKeys_letters (h : EndsIn display before run) (hrun : run ∈ Numeral.deadEnds)
    {keys : List Char} (hkeys : ∀ key ∈ keys, isLetterChar key = true) :
    replayKeys display keys = display := by
  induction keys with
  | nil => rfl
  | cons key keys ih =>
    rw [List.forall_mem_cons] at hkeys
    have hkey : replayKey display key = display := if_pos (h.isDisabled_letter hrun hkeys.1)
    change replayKeys (replayKey display key) keys = display
    rw [hkey, ih hkeys.2]

/-- Where the run is possible, the display is marked at a dead end only. -/
theorem isIncomplete_iff (h : EndsIn display before run) (hrun : Possible run) :
    isIncomplete display = true ↔ run ∈ Numeral.deadEnds := by
  simp only [isIncomplete, h.trailingRun_eq, Numeral.isNumeral_spell]
  constructor
  · intro hmarked
    rcases hrun with rfl | hformed | hend
    · cases hmarked
    · rw [hformed] at hmarked
      simp at hmarked
    · exact hend
  · intro hend
    rw [Numeral.isWellFormed_of_mem_deadEnds hend]
    have hne : run ≠ [] := by
      rintro rfl
      simp [Numeral.deadEnds] at hend
    simpa [Letter.spell] using hne

end EndsIn

theorem exists_endsIn_replayKeys (keys : List Char) :
    ∃ before run, EndsIn (replayKeys [] keys) before run ∧ Possible run := by
  have hempty : EndsIn [] [] [] := ⟨rfl, by simp, rfl⟩
  exact hempty.exists_replayKeys (.inl rfl) keys

/-- The line of a key is written at the display that the keys before it lead to. -/
theorem getElem?_replayFrom (display typed : List Char) (key : Char) (rest : List Char) :
    (replayFrom display (typed ++ key :: rest))[typed.length]? =
      some (keyLine (replayKeys display typed) key) := by
  induction typed generalizing display with
  | nil => rfl
  | cons first typed ih => exact ih (replayKey display first)

/-! ## The mark of a line

The mark has a small l with an e behind it. No display has a small l, since it is a letter and so put
in capitals, and of the other parts of a line only a quoted key and the name of an operator have one.
-/

theorem exists_eq_char_of_mem_interrupt {c d : Char} {run : List Letter} (h : d ∈ interrupt c run)
    (hd : isLetterChar d = true) : ∃ l : Letter, d = l.char := by
  rcases interrupt_eq_spell_or_digits c run with hspell | hdigits
  · rw [hspell] at h
    obtain ⟨l, -, rfl⟩ := List.mem_map.mp h
    exact ⟨l, rfl⟩
  · rw [hdigits d h] at hd
    cases hd

/-- The letters of a refreshed display are in capitals. -/
theorem exists_eq_char_of_mem_interpret {run : List Letter} {text : List Char} {d : Char}
    (h : d ∈ interpret Letter.spell run text) (hd : isLetterChar d = true) :
    ∃ l : Letter, d = l.char := by
  induction text generalizing run with
  | nil =>
    obtain ⟨l, -, rfl⟩ := List.mem_map.mp h
    exact ⟨l, rfl⟩
  | cons c text ih =>
    cases hc : Letter.ofChar? c with
    | some l =>
      rw [interpret_letter hc] at h
      exact ih h
    | none =>
      have hother : isLetterChar c = false := isLetterChar_eq_false_iff.mpr hc
      rw [interpret_interruption hother, List.mem_append, List.mem_cons] at h
      rcases h with h | rfl | h
      · exact exists_eq_char_of_mem_interrupt h hd
      · rw [hd] at hother
        cases hother
      · exact ih h

theorem EndsIn.not_mem {display before : List Char} {run : List Letter}
    (h : EndsIn display before run) : 'l' ∉ display := by
  intro hmem
  have hrefreshed : refresh display = display := by
    have happend := h.refresh_append []
    rwa [List.append_nil, interpret_nil, ← h.split] at happend
  rw [← hrefreshed] at hmem
  obtain ⟨l, hl⟩ := exists_eq_char_of_mem_interpret hmem rfl
  cases l <;> exact absurd hl (by decide)

/-- The text that marks a line whose display ends in letters that are no numeral. -/
def incompleteMark : List Char :=
  "(incomplete numeral)".toList

/-- No small l has an e behind it, as one has in the mark. -/
def Unmarked (line : List Char) : Prop :=
  line.IsChain fun c d => ¬(c = 'l' ∧ d = 'e')

theorem Unmarked.no_mark {line : List Char} (h : Unmarked line) :
    ¬incompleteMark <:+: line := by
  intro hmark
  have hpair : ['l', 'e'] <:+: line :=
    List.IsInfix.trans ⟨"(incomp".toList, "te numeral)".toList, rfl⟩ hmark
  have hchain := List.IsChain.infix h hpair
  simp at hchain

theorem unmarked_append {s t : List Char} (hs : 'l' ∉ s) (ht : Unmarked t) : Unmarked (s ++ t) := by
  induction s with
  | nil => exact ht
  | cons c s ih =>
    rw [List.mem_cons, not_or] at hs
    refine List.isChain_cons.mpr ⟨?_, ih hs.2⟩
    rintro d - ⟨hc, -⟩
    exact hs.1 hc.symm

theorem not_mem_hexDigits (width n : Nat) : 'l' ∉ Text.hexDigits width n := by
  induction width generalizing n with
  | zero => simp [Text.hexDigits]
  | succ width ih =>
    have hdigit : ∀ k < 16, 'l' ≠ Nat.digitChar k := by decide
    rw [Text.hexDigits, List.mem_append, List.mem_singleton, not_or]
    exact ⟨ih _, hdigit _ (Nat.mod_lt n (by decide))⟩

theorem not_mem_escapeCode (c : Char) : 'l' ∉ Text.escapeCode c := by
  unfold Text.escapeCode
  split
  · simp [not_mem_hexDigits]
  · split <;> simp [not_mem_hexDigits]

theorem not_mem_quoteChar {quote c : Char} (hc : 'l' ≠ c) : 'l' ∉ Text.quoteChar quote c := by
  have hescape := not_mem_escapeCode c
  unfold Text.quoteChar
  repeat' split
  all_goals simp [hc, hescape]

theorem not_mem_quoted {text : List Char} (h : 'l' ∉ text) : 'l' ∉ Text.quoted text := by
  have hquote : 'l' ≠ Text.quoteFor text := by
    unfold Text.quoteFor
    split <;> decide
  simp only [Text.quoted, List.mem_append, List.mem_cons, List.mem_flatMap, List.not_mem_nil,
    or_false, not_or]
  refine ⟨⟨hquote, ?_⟩, hquote⟩
  rintro ⟨c, hc, hmem⟩
  refine not_mem_quoteChar ?_ hmem
  rintro rfl
  exact h hc

/-- A quoted l has a quote behind it. -/
theorem unmarked_quoted_append (key : Char) {t : List Char} (ht : Unmarked t) :
    Unmarked (Text.quoted [key] ++ t) := by
  by_cases hkey : key = 'l'
  · subst hkey
    have hquoted : Text.quoted ['l'] = ['\'', 'l', '\''] := by decide +kernel
    rw [hquoted]
    have hbehind : Unmarked (['\''] ++ t) := unmarked_append (by decide) ht
    have hl : Unmarked ('l' :: '\'' :: t) := List.isChain_cons_cons.mpr ⟨by decide, hbehind⟩
    exact List.isChain_cons_cons.mpr ⟨by decide, hl⟩
  · refine unmarked_append (not_mem_quoted ?_) ht
    rw [List.mem_singleton]
    exact fun h => hkey h.symm

theorem not_mem_spell (letters : List Letter) : 'l' ∉ Letter.spell letters := by
  intro hmem
  obtain ⟨l, -, hl⟩ := List.mem_map.mp hmem
  cases l <;> exact absurd hl (by decide)

theorem not_mem_nextText (run : List Char) : 'l' ∉ nextText run := by
  simp only [nextText]
  split
  · decide
  · exact not_mem_spell _

theorem unmarked_latinName (op : Operator) :
    Unmarked ("  (".toList ++ (op.sign ++ (' ' :: op.latinName ++ [')']))) := by
  unfold Unmarked
  cases op <;> decide

theorem unmarked_acceptedLine {display : List Char} (key : Char) (hl : 'l' ∉ display)
    (hcomplete : isIncomplete display = false) : Unmarked (acceptedLine key display) := by
  simp only [acceptedLine, hcomplete, List.append_assoc]
  apply unmarked_quoted_append
  apply unmarked_append (by decide)
  apply unmarked_append hl
  apply unmarked_append
  · split
    · simp
    · simp [not_mem_nextText]
  apply unmarked_append (by simp)
  cases Operator.ofChar? key with
  | none => exact List.isChain_nil
  | some op => exact unmarked_latinName op

theorem unmarked_ignoredLine {display : List Char} (key : Char) (hl : 'l' ∉ display) :
    Unmarked (ignoredLine key display) := by
  have hrun : 'l' ∉ Numeral.trailingRun display := by
    obtain ⟨before, hsplit, -⟩ := Numeral.exists_trailingRun display
    rw [hsplit, List.mem_append, not_or] at hl
    exact hl.2
  rw [ignoredLine, List.append_assoc]
  apply unmarked_quoted_append
  apply unmarked_append (by decide)
  rw [← List.append_nil (Text.quoted _)]
  exact unmarked_append (not_mem_quoted hrun) List.isChain_nil

theorem mark_infix_acceptedLine {display : List Char} (key : Char)
    (h : isIncomplete display = true) : incompleteMark <:+: acceptedLine key display := by
  simp only [acceptedLine, h]
  refine List.IsInfix.trans ?_ (List.prefix_append _ _).isInfix
  refine List.IsInfix.trans ?_ (List.suffix_append _ _).isInfix
  exact ⟨"  ".toList, [], rfl⟩

/-! ## Every step of a replay -/

/-- The dead ends as a display shows them. -/
def deadEndTexts : List (List Char) :=
  ["VV".toList, "LL".toList, "DD".toList]

theorem spell_mem_deadEndTexts_iff {run : List Letter} :
    Letter.spell run ∈ deadEndTexts ↔ run ∈ Numeral.deadEnds := by
  have htexts : deadEndTexts = Numeral.deadEnds.map Letter.spell := rfl
  rw [htexts, List.mem_map_of_injective fun _ _ => Numeral.spell_injective]

theorem EndsIn.trailingRun_mem_iff {display before : List Char} {run : List Letter}
    (h : EndsIn display before run) :
    Numeral.trailingRun display ∈ deadEndTexts ↔ run ∈ Numeral.deadEnds := by
  rw [h.trailingRun_eq, spell_mem_deadEndTexts_iff]

/-- A line is marked where its key is taken and leads to a dead end. -/
theorem mark_infix_keyLine_iff (typed : List Char) (key : Char) :
    incompleteMark <:+: keyLine (replayKeys [] typed) key ↔
      isDisabled (replayKeys [] typed) key = false ∧
        Numeral.trailingRun (replayKeys [] (typed ++ [key])) ∈ deadEndTexts := by
  obtain ⟨before, run, hends, hrun⟩ := exists_endsIn_replayKeys typed
  obtain ⟨before', run', hends', hrun'⟩ := hends.exists_replayKey hrun key
  rw [replayKeys_append]
  change _ ↔ _ ∧ Numeral.trailingRun (replayKey (replayKeys [] typed) key) ∈ _
  rw [hends'.trailingRun_mem_iff, ← hends'.isIncomplete_iff hrun']
  unfold keyLine replayKey
  by_cases hdisabled : isDisabled (replayKeys [] typed) key = true
  · rw [if_pos hdisabled]
    constructor
    · intro hmark
      exact absurd hmark (unmarked_ignoredLine key hends.not_mem).no_mark
    · rintro ⟨htaken, -⟩
      rw [htaken] at hdisabled
      cases hdisabled
  · rw [replayKey, if_neg hdisabled] at hends'
    rw [if_neg hdisabled, if_neg hdisabled]
    constructor
    · intro hmark
      refine ⟨by simpa using hdisabled, ?_⟩
      cases hincomplete : isIncomplete (press (replayKeys [] typed) [key]) with
      | true => rfl
      | false =>
        exact absurd hmark (unmarked_acceptedLine key hends'.not_mem hincomplete).no_mark
    · rintro ⟨-, hincomplete⟩
      exact mark_infix_acceptedLine key hincomplete

/-- No replay builds an impossible run. After any of its keys the run at the end of the display is
nothing, a numeral, or one of three pairs; a line is marked as incomplete where its key was taken and
led to one of these pairs, and from there on all letters are ignored for as long as no other key is
typed. -/
theorem replay_runs (text : List Char) :
    (∀ typed rest, Text.removeBlanks text = typed ++ rest →
      Numeral.trailingRun (replayKeys [] typed) = [] ∨
        Numeral.isNumeral (Numeral.trailingRun (replayKeys [] typed)) = true ∨
        Numeral.trailingRun (replayKeys [] typed) ∈ deadEndTexts) ∧
    (∀ typed key rest, Text.removeBlanks text = typed ++ key :: rest →
      (replay text)[typed.length]? = some (keyLine (replayKeys [] typed) key) ∧
        (incompleteMark <:+: keyLine (replayKeys [] typed) key ↔
          isDisabled (replayKeys [] typed) key = false ∧
            Numeral.trailingRun (replayKeys [] (typed ++ [key])) ∈ deadEndTexts)) ∧
    ∀ typed letters key rest, Text.removeBlanks text = typed ++ letters ++ key :: rest →
      Numeral.trailingRun (replayKeys [] typed) ∈ deadEndTexts →
      (∀ c ∈ letters, isLetterChar c = true) → isLetterChar key = true →
      replayKeys [] (typed ++ letters) = replayKeys [] typed ∧
        isDisabled (replayKeys [] typed) key = true ∧
        (replay text)[(typed ++ letters).length]? =
          some (ignoredLine key (replayKeys [] typed)) := by
  refine ⟨?_, ?_, ?_⟩
  · intro typed rest _
    obtain ⟨before, run, hends, hrun⟩ := exists_endsIn_replayKeys typed
    rw [hends.trailingRun_mem_iff, hends.trailingRun_eq, Numeral.isNumeral_spell]
    rcases hrun with rfl | hrun
    · exact .inl rfl
    · exact .inr hrun
  · intro typed key rest htext
    refine ⟨?_, mark_infix_keyLine_iff typed key⟩
    rw [replay, htext]
    exact getElem?_replayFrom [] typed key rest
  · intro typed letters key rest htext hend hletters hkey
    obtain ⟨before, run, hends, -⟩ := exists_endsIn_replayKeys typed
    have hrun : run ∈ Numeral.deadEnds := hends.trailingRun_mem_iff.mp hend
    have hsame : replayKeys [] (typed ++ letters) = replayKeys [] typed := by
      rw [replayKeys_append, hends.replayKeys_letters hrun hletters]
    have hdisabled : isDisabled (replayKeys [] typed) key = true :=
      hends.isDisabled_letter hrun hkey
    refine ⟨hsame, hdisabled, ?_⟩
    rw [replay, htext, getElem?_replayFrom, hsame, keyLine, if_pos hdisabled]

/-- The pair of two V is marked, further letters are ignored, and the operator behind them is taken. -/
theorem replay_runs_pair :
    Text.removeBlanks "v Vıx+".toList = ['v', 'V'] ++ ['ı'] ++ 'x' :: ['+'] ∧
      incompleteMark <:+: keyLine (replayKeys [] ['v']) 'V' ∧
      (replay "v Vıx+".toList)[3]? = some (ignoredLine 'x' "VV".toList) ∧
      replayKeys [] ['v', 'V', 'ı', 'x', '+'] = "VV+".toList := by
  have htext : Text.removeBlanks "v Vıx+".toList = ['v', 'V'] ++ ['ı'] ++ 'x' :: ['+'] := by
    decide +kernel
  have hdisplay : replayKeys [] ['v', 'V'] = "VV".toList := by decide +kernel
  obtain ⟨-, hlines, hletters⟩ := replay_runs "v Vıx+".toList
  obtain ⟨-, hmark⟩ := hlines ['v'] 'V' ['ı', 'x', '+'] htext
  have hdotless : ∀ c ∈ ['ı'], isLetterChar c = true := List.all_eq_true.mp rfl
  obtain ⟨-, -, hline⟩ := hletters ['v', 'V'] ['ı'] 'x' ['+'] htext (by decide +kernel) hdotless rfl
  refine ⟨htext, hmark.mpr (by decide +kernel), ?_, by decide +kernel⟩
  rw [← hdisplay]
  exact hline

end RomanCalc.Keypad
