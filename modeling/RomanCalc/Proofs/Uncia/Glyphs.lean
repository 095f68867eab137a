import RomanCalc.Proofs.Numeral.Letters
import RomanCalc.Proofs.Text.Case
import RomanCalc.Uncia.Text

/-!
# Glyphs at the end of a text

The glyphs of twelfths are made of six marks, the letter of the half and five kinds of dots. They
are looked for in the capitals of a text, and so every character whose capitals end in the letter of
the half is read as it (`Mark.ofChar?`): besides the small s also the long and the sharp one. A text
in capitals ends in the glyphs that its own last characters are read as (`suffix_upper_iff`). Where
no character before them is read as a mark, these and no others are cut off (`cutGlyphs_append`).
-/

namespace RomanCalc.Uncia

/-- What glyphs are made of: the letter of the half, and the dots of one to five twelfths. -/
inductive Mark
  | half
  | one
  | two
  | three
  | four
  | five
deriving DecidableEq

namespace Mark

/-- The character that writes a mark. -/
def char : Mark → Char
  | half => 'S'
  | one => '·'
  | two => ':'
  | three => '∴'
  | four => '∷'
  | five => '⁙'

/-- The mark that a character is read as. -/
def ofChar? : Char → Option Mark
  | 'S' | 's' | 'ſ' | 'ß' => some half
  | '·' => some one
  | ':' => some two
  | '∴' => some three
  | '∷' => some four
  | '⁙' => some five
  | _ => none

/-- The dots of up to five twelfths. -/
def dots : Nat → List Mark
  | 1 => [one]
  | 2 => [two]
  | 3 => [three]
  | 4 => [four]
  | 5 => [five]
  | _ => []

@[simp] theorem ofChar?_char (mark : Mark) : ofChar? mark.char = some mark := by
  cases mark <;> rfl

theorem dots_cases (n : Nat) : dots n = [] ∨ ∃ dot, dot ≠ half ∧ dots n = [dot] := by
  unfold dots
  split <;> simp

end Mark

/-- The marks of a count of twelfths. -/
def marks (t : Twelfths) : List Mark :=
  if (t : Nat) < 6 then Mark.dots t else .half :: Mark.dots (t - 6)

/-- A text is read as the glyphs of twelfths, character by character. -/
def ReadsGlyphs (text : List Char) (t : Twelfths) : Prop :=
  text.map Mark.ofChar? = (marks t).map some

/-- A text writes the glyphs of twelfths, with the letter of the half in either case. -/
def WritesGlyphs (text : List Char) (t : Twelfths) : Prop :=
  text.map Char.toUpper = glyphs t

/-- A text without marks. -/
def Markless (text : List Char) : Prop :=
  ∀ c ∈ text, Mark.ofChar? c = none

theorem glyphs_eq (t : Twelfths) : glyphs t = (marks t).map Mark.char := by
  revert t
  decide

theorem marks_cases (t : Twelfths) :
    marks t = [] ∨ (∃ mark, marks t = [mark]) ∨ ∃ dot, dot ≠ .half ∧ marks t = [.half, dot] := by
  unfold marks
  split
  · rcases Mark.dots_cases t with hnone | ⟨dot, -, hdot⟩
    · exact .inl hnone
    · exact .inr (.inl ⟨dot, hdot⟩)
  · rcases Mark.dots_cases (t - 6) with hnone | ⟨dot, hne, hdot⟩
    · exact .inr (.inl ⟨.half, congrArg _ hnone⟩)
    · exact .inr (.inr ⟨dot, hne, congrArg _ hdot⟩)

theorem glyphs_eq_nil_iff {t : Twelfths} : glyphs t = [] ↔ t = noTwelfths := by
  revert t
  decide

theorem readsGlyphs_glyphs (t : Twelfths) : ReadsGlyphs (glyphs t) t := by
  rw [ReadsGlyphs, glyphs_eq, List.map_map]
  exact List.map_congr_left fun mark _ => mark.ofChar?_char

/-! ## Marks among capitals -/

/-- The capitals of a character end in the mark that it is read as, and in no other. -/
theorem getLast?_upperChar_iff {c : Char} (mark : Mark) :
    (Text.upperChar c).getLast? = some mark.char ↔ Mark.ofChar? c = some mark := by
  constructor
  · intro h
    rcases Text.upperChar_cases c with
      ⟨hbasic, hupper⟩ | ⟨codes, htable, hupper⟩ | hspecial | ⟨d, hupper, hbeyond, -⟩
    · rw [hupper] at h
      revert h
      refine Text.forall_basic hbasic ?_
      cases mark <;> decide +kernel
    · have hall : (Text.upperExpansions.all fun entry => decide
          ((entry.2.map Char.ofNat).getLast? = some mark.char →
            Mark.ofChar? (Char.ofNat entry.1) = some mark)) = true := by
        cases mark <;> decide +kernel
      rw [hupper] at h
      have hentry := of_decide_eq_true (List.all_eq_true.mp hall _ htable) h
      rwa [Char.ofNat_toNat] at hentry
    · revert h
      rcases hspecial with rfl | rfl <;> cases mark <;> decide +kernel
    · -- A single capital beyond the basic ones is a mark only where it is the character itself.
      rw [hupper] at h
      obtain rfl : d = mark.char := by simpa using h
      have hruns : ∀ run ∈ Text.upperRuns, mark.char.toNat < 0x80 ∨
          mark.char.toNat < run.target ∨
            run.target + (run.last - run.first) < mark.char.toNat := by
        cases mark <;> decide +kernel
      have hself := Text.eq_of_upperChar hbeyond
        (fun run hrun => (hruns run hrun).resolve_left (Nat.not_lt.mpr hbeyond)) hupper
      rw [hself, Mark.ofChar?_char]
  · intro h
    unfold Mark.ofChar? at h
    split at h <;> cases h <;> decide +kernel

/-- A text in capitals ends in the mark that its own last character is read as, and in no other. -/
theorem mark_suffix_upper_iff (mark : Mark) (text : List Char) :
    [mark.char] <:+ Text.upper text ↔ [some mark] <:+ text.map Mark.ofChar? := by
  rw [List.singleton_suffix_iff_getLast?_eq_some, List.singleton_suffix_iff_getLast?_eq_some]
  rcases List.eq_nil_or_concat text with rfl | ⟨front, c, rfl⟩
  · simp
  · have hlast : (Text.upper (front.concat c)).getLast? = (Text.upperChar c).getLast? := by
      rw [List.concat_eq_append, Text.upper_append, Text.upper_cons, Text.upper_nil,
        List.append_nil, List.getLast?_append,
        Option.or_of_isSome (by simp [Text.upperChar_ne_nil])]
    rw [hlast, getLast?_upperChar_iff]
    simp

/-- No other character stands for a dot, so that it can be taken off a text and its capitals. -/
theorem concat_dot_suffix_upper_iff {dot : Mark} (hdot : dot ≠ .half) (front text : List Char)
    (c : Char) :
    front ++ [dot.char] <:+ Text.upper (text ++ [c]) ↔
      front <:+ Text.upper text ∧ Mark.ofChar? c = some dot := by
  have hchar : Mark.ofChar? c = some dot → c = dot.char := by
    intro h
    unfold Mark.ofChar? at h
    split at h <;> cases h <;> first | rfl | exact absurd rfl hdot
  have hupper : Text.upper (text ++ [dot.char]) = Text.upper text ++ [dot.char] := by
    rw [Text.upper_append, List.append_cancel_left_eq]
    cases dot <;> decide +kernel
  constructor
  · intro h
    have hlast : [dot.char] <:+ Text.upper (text ++ [c]) := .trans ⟨front, rfl⟩ h
    rw [mark_suffix_upper_iff, List.map_append, List.singleton_suffix_iff_getLast?_eq_some] at hlast
    have hmark : Mark.ofChar? c = some dot := by simpa using hlast
    rw [hchar hmark, hupper, List.suffix_append_inj_of_length_eq rfl] at h
    exact ⟨h.1, hmark⟩
  · rintro ⟨hfront, hmark⟩
    rw [hchar hmark, hupper, List.suffix_append_inj_of_length_eq rfl]
    exact ⟨hfront, rfl⟩

/-- A text in capitals ends in the glyphs that its own last characters are read as. -/
theorem suffix_upper_iff (t : Twelfths) (text : List Char) :
    glyphs t <:+ Text.upper text ↔ (marks t).map some <:+ text.map Mark.ofChar? := by
  rw [glyphs_eq]
  rcases marks_cases t with hnone | ⟨mark, hone⟩ | ⟨dot, hdot, htwo⟩
  · simp [hnone]
  · rw [hone]
    exact mark_suffix_upper_iff mark text
  · rcases List.eq_nil_or_concat text with rfl | ⟨front, c, rfl⟩
    · simp [htwo]
    · rw [htwo, List.concat_eq_append]
      calc [Mark.half.char] ++ [dot.char] <:+ Text.upper (front ++ [c])
          ↔ [Mark.half.char] <:+ Text.upper front ∧ Mark.ofChar? c = some dot :=
            concat_dot_suffix_upper_iff hdot _ _ _
        _ ↔ [some .half] <:+ front.map Mark.ofChar? ∧ [some dot] = [Mark.ofChar? c] := by
            rw [mark_suffix_upper_iff, List.cons.injEq, eq_comm]
            simp
        _ ↔ [some .half] ++ [some dot] <:+ front.map Mark.ofChar? ++ [Mark.ofChar? c] :=
            (List.suffix_append_inj_of_length_eq (by rfl)).symm
        _ ↔ _ := by rw [List.map_append]; rfl

/-! ## Glyphs in either case -/

theorem toUpper_of_not_basic {c : Char} (h : 0x80 ≤ c.toNat) : c.toUpper = c := by
  unfold Char.toUpper
  rw [dif_neg]
  rintro ⟨-, hz⟩
  have hle : c.toNat ≤ 'z'.toNat := hz
  have hlow : 'z'.toNat < 0x80 := by decide
  omega

/-- Without the long and the sharp s, a mark is read only from its character and, the half, from the
small s. -/
theorem Mark.ofChar?_eq_some_iff {c : Char} {mark : Mark} (hc : c ≠ 'ſ' ∧ c ≠ 'ß') :
    ofChar? c = some mark ↔ c.toUpper = mark.char := by
  rcases Nat.lt_or_ge c.toNat 0x80 with hbasic | hbeyond
  · refine Text.forall_basic hbasic ?_
    cases mark <;> decide +kernel
  · rw [toUpper_of_not_basic hbeyond]
    constructor
    · intro h
      unfold ofChar? at h
      split at h <;> cases h <;> first | rfl | exact absurd hbeyond (by decide) | simp at hc
    · rintro rfl
      exact mark.ofChar?_char

/-- In a text without the long and the sharp s, the glyphs that are read are those that are
written. -/
theorem readsGlyphs_iff_writesGlyphs {g : List Char} (h : ∀ c ∈ g, c ≠ 'ſ' ∧ c ≠ 'ß')
    (t : Twelfths) : ReadsGlyphs g t ↔ WritesGlyphs g t := by
  unfold ReadsGlyphs WritesGlyphs
  rw [glyphs_eq]
  generalize marks t = row
  induction g generalizing row with
  | nil => cases row <;> simp
  | cons c g ih =>
    cases row with
    | nil => simp
    | cons mark row =>
      rw [List.forall_mem_cons] at h
      simp only [List.map_cons, List.cons.injEq]
      exact and_congr (Mark.ofChar?_eq_some_iff h.1) (ih h.2 row)

/-! ## Cutting glyphs off -/

/-- Behind what is read as no marks, marks end in the same marks as by themselves. -/
theorem map_some_suffix_append_iff {read : List (Option Mark)} (hread : ∀ mark ∈ read, mark = none)
    (row behind : List Mark) :
    row.map some <:+ read ++ behind.map some ↔ row <:+ behind := by
  have hsome : Function.Injective (some : Mark → Option Mark) := fun _ _ => Option.some.inj
  rw [← List.suffix_map_iff_of_injective hsome]
  constructor
  · intro h
    rcases List.suffix_or_suffix_of_suffix h (List.suffix_append _ _) with hshort | ⟨front, hlong⟩
    · exact hshort
    · -- What the row has in front of the marks behind would be read as no marks.
      rw [← hlong, List.suffix_append_inj_of_length_eq rfl] at h
      obtain rfl : front = [] := by
        rw [List.eq_nil_iff_forall_not_mem]
        intro mark hmark
        obtain rfl := hread mark (h.1.subset hmark)
        obtain ⟨d, -, hsome⟩ := List.mem_map.mp
          (hlong ▸ List.mem_append_left (behind.map some) hmark)
        cases hsome
      exact ⟨[], hlong.symm⟩
  · exact List.suffix_append_of_suffix

theorem Markless.read {m : List Char} (h : Markless m) :
    ∀ mark ∈ m.map Mark.ofChar?, mark = none := by
  intro mark hmark
  obtain ⟨c, hc, rfl⟩ := List.mem_map.mp hmark
  exact h c hc

/-- Behind a text without marks, the glyphs that a text in capitals ends in are those that the
glyphs behind it end in. -/
theorem suffix_upper_append_iff {m g : List Char} {t : Twelfths} (hm : Markless m)
    (hg : ReadsGlyphs g t) (u : Twelfths) :
    glyphs u <:+ Text.upper (m ++ g) ↔ marks u <:+ marks t := by
  rw [suffix_upper_iff, List.map_append, hg, map_some_suffix_append_iff hm.read]

/-- Behind a text without marks, the glyphs of twelfths are cut off. -/
theorem cutGlyphs_append {m g : List Char} {t : Twelfths} (hm : Markless m)
    (hg : ReadsGlyphs g t) : cutGlyphs (m ++ g) = (m, t) := by
  have hfind : (byGlyphLength.find? fun u => (glyphs u).isSuffixOf (Text.upper (m ++ g))) =
      byGlyphLength.find? fun u => (marks u).isSuffixOf (marks t) := by
    congr 1
    funext u
    rw [Bool.eq_iff_iff, List.isSuffixOf_iff_suffix, List.isSuffixOf_iff_suffix,
      suffix_upper_append_iff hm hg]
  have hlongest : ∀ t, (byGlyphLength.find? fun u => (marks u).isSuffixOf (marks t)) =
      if t = noTwelfths then none else some t := by
    decide
  have hlength : g.length = (glyphs t).length := by
    rw [glyphs_eq]
    simpa using congrArg List.length hg
  rw [cutGlyphs, hfind, hlongest]
  split
  · next u h =>
    obtain ⟨-, rfl⟩ : t ≠ noTwelfths ∧ t = u := by simpa using h
    simp [← hlength]
  · next h =>
    obtain rfl : t = noTwelfths := by simpa using h
    obtain rfl : g = [] := List.eq_nil_of_length_eq_zero hlength
    rw [List.append_nil]

/-- What is cut off reads as the glyphs of twelfths. -/
theorem exists_cutGlyphs (text : List Char) :
    ∃ g, text = (cutGlyphs text).1 ++ g ∧ ReadsGlyphs g (cutGlyphs text).2 := by
  unfold cutGlyphs
  split
  · next t h =>
    have hsuffix := List.find?_some h
    rw [List.isSuffixOf_iff_suffix, suffix_upper_iff, List.suffix_iff_eq_drop] at hsuffix
    refine ⟨text.drop (text.length - (glyphs t).length), (List.take_append_drop _ _).symm, ?_⟩
    rw [ReadsGlyphs, List.map_drop, hsuffix, glyphs_eq]
    simp
  · exact ⟨[], (List.append_nil _).symm, rfl⟩

/-! ## What a text ends in -/

/-- A text ends in the glyphs of twelfths, and in no longer ones. -/
structure EndsIn (text : List Char) (t : Twelfths) : Prop where
  suffix : glyphs t <:+ text
  longest : ∀ u, glyphs u <:+ text → (glyphs u).length ≤ (glyphs t).length

theorem glyphs_injective {t u : Twelfths} (h : glyphs t = glyphs u) : t = u := by
  revert t u
  decide

/-- A text ends in the glyphs of one count of twelfths only. -/
theorem EndsIn.unique {text : List Char} {t u : Twelfths} (ht : EndsIn text t)
    (hu : EndsIn text u) : u = t := by
  have hlength : (glyphs u).length = (glyphs t).length :=
    Nat.le_antisymm (ht.longest u hu.suffix) (hu.longest t ht.suffix)
  have hsuffix := List.suffix_of_suffix_length_le hu.suffix ht.suffix (Nat.le_of_eq hlength)
  exact glyphs_injective (hsuffix.eq_of_length hlength)

theorem suffix_append_iff {m : List Char} (hm : Markless m) (t u : Twelfths) :
    glyphs u <:+ m ++ glyphs t ↔ marks u <:+ marks t := by
  constructor
  · intro h
    have hmarks := h.map Mark.ofChar?
    rwa [List.map_append, readsGlyphs_glyphs, readsGlyphs_glyphs,
      map_some_suffix_append_iff hm.read] at hmarks
  · intro h
    rw [glyphs_eq, glyphs_eq]
    exact List.suffix_append_of_suffix (h.map Mark.char)

/-- Behind a text without marks, a text ends in the glyphs that are there. -/
theorem endsIn_append {m : List Char} (hm : Markless m) (t : Twelfths) :
    EndsIn (m ++ glyphs t) t := by
  refine ⟨List.suffix_append m _, ?_⟩
  intro u hu
  rw [suffix_append_iff hm] at hu
  rw [glyphs_eq, glyphs_eq, List.length_map, List.length_map]
  exact hu.length_le

/-- Behind a text without marks, a text ends in some glyphs where there are some. -/
theorem exists_glyphs_suffix_iff {m : List Char} (hm : Markless m) (t : Twelfths) :
    (∃ u, u ≠ noTwelfths ∧ glyphs u <:+ m ++ glyphs t) ↔ t ≠ noTwelfths := by
  constructor
  · rintro ⟨u, hu, hsuffix⟩ rfl
    rw [suffix_append_iff hm] at hsuffix
    have hnone : marks u = [] := List.eq_nil_of_suffix_nil hsuffix
    apply hu
    rw [← glyphs_eq_nil_iff, glyphs_eq, hnone]
    rfl
  · intro ht
    exact ⟨t, ht, List.suffix_append m _⟩

end RomanCalc.Uncia
