import RomanCalc.Proofs.Numeral.Readings
import RomanCalc.Proofs.Text.Blank
import RomanCalc.Proofs.Uncia.Glyphs
import RomanCalc.Proofs.Uncia.Written

/-!
# Reading numerals with glyphs

A text is read where it is a numeral, or nothing, with the glyphs of twelfths behind it. No
character of a numeral is read as a mark, so that a text is taken apart into the two in one way only
(`read_of_body`), and what is read, and why it is not, is known from them (`read_by_format`). What is
written for a number is read back as the number in whole twelfths (`read_ofFloat`).
-/

namespace RomanCalc.Uncia

/-- The number in front of the glyphs, which is zero where there is nothing. -/
def readWhole (m : List Char) : Except Failure Nat :=
  if m = [] then .ok 0 else Numeral.read m

theorem readWhole_eq_ok_iff {m : List Char} {n : Nat} :
    readWhole m = .ok n ↔ m = [] ∧ n = 0 ∨ Numeral.value? m = .ok (some n) := by
  unfold readWhole
  split
  · next hm =>
    subst hm
    have hvalue : Numeral.value? [] = .ok none := rfl
    simp [hvalue, eq_comm]
  · next hm => simp [hm, Numeral.read_eq_ok_iff]

theorem mark_of_letter {c : Char} (h : isLetterChar c = true) : Mark.ofChar? c = none := by
  obtain ⟨l, hl⟩ := Option.isSome_iff_exists.mp h
  unfold Letter.ofChar? at hl
  split at hl <;> first | rfl | cases hl

theorem markless_of_numeral {m : List Char} (h : Numeral.isNumeral m = true) : Markless m := by
  intro c hc
  rcases Numeral.letter_of_mem_numeral h hc with rfl | hletter
  · rfl
  · exact mark_of_letter hletter

theorem markless_spell (row : List Numeral.Glyph) : Markless (Numeral.spell row) := by
  intro c hc
  rcases Numeral.mem_spell hc with rfl | ⟨l, rfl⟩
  · rfl
  · apply mark_of_letter
    simp [isLetterChar]

theorem markless_of_readWhole {m : List Char} {n : Nat} (h : readWhole m = .ok n) :
    Markless m := by
  rcases readWhole_eq_ok_iff.mp h with ⟨rfl, -⟩ | hvalue
  · intro c hc
    cases hc
  · exact markless_of_numeral (Numeral.isNumeral_of_value? hvalue)

section

variable {text m g : List Char} {t : Twelfths}

theorem read_of_cutGlyphs (hne : (signAndBody text).2 ≠ [])
    (hcut : cutGlyphs (signAndBody text).2 = (m, t)) :
    read text = (readWhole m).map fun n =>
      (signAndBody text).1 * (Float.ofNat n + Float.ofNat t / 12.0) := by
  have hbody : (signAndBody text).2.isEmpty = false := by simpa using hne
  unfold read numeralPart? readWhole
  simp only [hcut, hbody]
  cases m <;> rfl

/-- What is in front of the glyphs of a text is read as a number, whatever the glyphs are. -/
theorem read_of_body (hbody : (signAndBody text).2 = m ++ g) (hne : (signAndBody text).2 ≠ [])
    (hm : Markless m) (hg : ReadsGlyphs g t) :
    read text = (readWhole m).map fun n =>
      (signAndBody text).1 * (Float.ofNat n + Float.ofNat t / 12.0) := by
  apply read_of_cutGlyphs hne
  rw [hbody, cutGlyphs_append hm hg]

theorem exists_body (text : List Char) (hne : (signAndBody text).2 ≠ []) :
    ∃ m g t, (signAndBody text).2 = m ++ g ∧ ReadsGlyphs g t ∧
      read text = (readWhole m).map fun n =>
        (signAndBody text).1 * (Float.ofNat n + Float.ofNat t / 12.0) := by
  obtain ⟨g, hbody, hg⟩ := exists_cutGlyphs (signAndBody text).2
  exact ⟨_, g, _, hbody, hg, read_of_cutGlyphs hne rfl⟩

end

/-- Behind blanks and an optional minus sign, a text has a numeral or nothing, and glyphs behind
that; the relation says which texts are the glyphs of which twelfths. -/
def InFormat (areGlyphs : List Char → Twelfths → Prop) (text : List Char) (v : Float) : Prop :=
  (signAndBody text).2 ≠ [] ∧ ∃ m g t n, (signAndBody text).2 = m ++ g ∧
    (m = [] ∧ n = 0 ∨ Numeral.value? m = .ok (some n)) ∧ areGlyphs g t ∧
      v = (signAndBody text).1 * (Float.ofNat n + Float.ofNat t / 12.0)

theorem read_eq_ok_iff {text : List Char} {v : Float} :
    read text = .ok v ↔ InFormat ReadsGlyphs text v := by
  constructor
  · intro h
    by_cases hne : (signAndBody text).2 = []
    · simp [read, hne] at h
    · obtain ⟨m, g, t, hbody, hg, hread⟩ := exists_body text hne
      rw [hread] at h
      cases hwhole : readWhole m with
      | error e => simp [hwhole, Except.map] at h
      | ok n =>
        rw [hwhole] at h
        exact ⟨hne, m, g, t, n, hbody, readWhole_eq_ok_iff.mp hwhole, hg, (Except.ok.inj h).symm⟩
  · rintro ⟨hne, m, g, t, n, hbody, hn, hg, rfl⟩
    have hwhole := readWhole_eq_ok_iff.mpr hn
    rw [read_of_body hbody hne (markless_of_readWhole hwhole) hg, hwhole]
    rfl

theorem inFormat_iff_of_plain {text : List Char} {v : Float}
    (h : ∀ c ∈ (signAndBody text).2, c ≠ 'ſ' ∧ c ≠ 'ß') :
    InFormat ReadsGlyphs text v ↔ InFormat WritesGlyphs text v := by
  have hglyphs : ∀ m g t, (signAndBody text).2 = m ++ g → (ReadsGlyphs g t ↔ WritesGlyphs g t) := by
    intro m g t hbody
    apply readsGlyphs_iff_writesGlyphs
    intro c hc
    exact h c (hbody ▸ List.mem_append_right m hc)
  constructor
  · rintro ⟨hne, m, g, t, n, hbody, hn, hg, hv⟩
    exact ⟨hne, m, g, t, n, hbody, hn, (hglyphs m g t hbody).mp hg, hv⟩
  · rintro ⟨hne, m, g, t, n, hbody, hn, hg, hv⟩
    exact ⟨hne, m, g, t, n, hbody, hn, (hglyphs m g t hbody).mpr hg, hv⟩

/-- A numeral with a dotted capital I has no value, and so it has none with glyphs behind it. -/
theorem read_of_dotted {text m g : List Char} {t : Twelfths}
    (hbody : (signAndBody text).2 = m ++ g) (hg : ReadsGlyphs g t)
    (hm : Numeral.isNumeral m = true) (hdotted : 'İ' ∈ m) :
    read text = .error (.unlisted ['İ']) := by
  have hm_ne : m ≠ [] := List.ne_nil_of_mem hdotted
  have hne : (signAndBody text).2 ≠ [] := by
    rw [hbody]
    exact List.append_ne_nil_of_left_ne_nil hm_ne g
  rw [read_of_body hbody hne (markless_of_numeral hm) hg, readWhole, if_neg hm_ne,
    Numeral.read_eq_error_iff.mpr (.inr ⟨hm, hdotted, rfl⟩)]
  rfl

theorem cause_of_read {text : List Char} {failure : Failure} (h : read text = .error failure) :
    (failure = .unlisted ['İ'] ∧ ∃ m g t, (signAndBody text).2 = m ++ g ∧ ReadsGlyphs g t ∧
      Numeral.isNumeral m = true ∧ 'İ' ∈ m) ∨
    ∃ f, failure = .fault f ∧ f.kind = .invalidNumeral := by
  by_cases hne : (signAndBody text).2 = []
  · have hfailure : Failure.fault (.invalidFraction text) = failure := by simpa [read, hne] using h
    exact .inr ⟨_, hfailure.symm, rfl⟩
  · obtain ⟨m, g, t, hbody, hg, hread⟩ := exists_body text hne
    rw [hread, readWhole] at h
    split at h
    · cases h
    · cases hwhole : Numeral.read m with
      | ok n => simp [hwhole, Except.map] at h
      | error e =>
        rw [hwhole] at h
        cases h
        rcases Numeral.read_eq_error_iff.mp hwhole with ⟨-, rfl⟩ | ⟨hm, hdotted, rfl⟩
        · exact .inr ⟨_, rfl, rfl⟩
        · exact .inl ⟨rfl, m, g, t, hbody, hg, hm, hdotted⟩

/-- A text is read exactly where it is in the format, glyphs being what is read as glyphs. Any
other text is a faulty numeral, but for a numeral with a dotted capital I, which has no value. Where
neither that nor a long or sharp s occurs, glyphs are what is written as glyphs, and every text that
is not read is a faulty numeral. -/
theorem read_by_format (text : List Char) :
    (∀ v, read text = .ok v ↔ InFormat ReadsGlyphs text v) ∧
    (read text = .error (.unlisted ['İ']) ↔ ∃ m g t, (signAndBody text).2 = m ++ g ∧
      ReadsGlyphs g t ∧ Numeral.isNumeral m = true ∧ 'İ' ∈ m) ∧
    (∀ failure, read text = .error failure →
      failure = .unlisted ['İ'] ∨ ∃ f, failure = .fault f ∧ f.kind = .invalidNumeral) ∧
    ((∀ c ∈ (signAndBody text).2, c ≠ 'ſ' ∧ c ≠ 'ß' ∧ c ≠ 'İ') →
      (∀ v, read text = .ok v ↔ InFormat WritesGlyphs text v) ∧
      ∀ failure, read text = .error failure →
        ∃ f, failure = .fault f ∧ f.kind = .invalidNumeral) := by
  refine ⟨fun v => read_eq_ok_iff, ?dotted, ?others, fun hplain => ⟨fun v => ?format, ?faults⟩⟩
  case dotted =>
    constructor
    · intro h
      rcases cause_of_read h with ⟨-, hdotted⟩ | ⟨f, hf, -⟩
      · exact hdotted
      · cases hf
    · rintro ⟨m, g, t, hbody, hg, hm, hdotted⟩
      exact read_of_dotted hbody hg hm hdotted
  case others =>
    intro failure h
    rcases cause_of_read h with ⟨hunlisted, -⟩ | hfault
    · exact .inl hunlisted
    · exact .inr hfault
  case format =>
    rw [read_eq_ok_iff]
    exact inFormat_iff_of_plain fun c hc => ⟨(hplain c hc).1, (hplain c hc).2.1⟩
  case faults =>
    intro failure h
    rcases cause_of_read h with ⟨-, m, g, t, hbody, -, -, hdotted⟩ | hfault
    · have hmem : 'İ' ∈ (signAndBody text).2 := hbody ▸ List.mem_append_left g hdotted
      exact absurd rfl (hplain _ hmem).2.2
    · exact hfault

/-- Minus a thousand and seven twelfths, in small letters and between blanks. -/
theorem read_by_format_septunx :
    (∀ c ∈ (signAndBody [' ', '-', 'm', 's', '·', ' ']).2, c ≠ 'ſ' ∧ c ≠ 'ß' ∧ c ≠ 'İ') ∧
      read [' ', '-', 'm', 's', '·', ' '] =
        .ok (-1.0 * (Float.ofNat 1000 + Float.ofNat (Twelfths.ofNat 7) / 12.0)) := by
  have hbody : signAndBody [' ', '-', 'm', 's', '·', ' '] = (-1.0, ['m', 's', '·']) := rfl
  have hplain : ∀ c ∈ (signAndBody [' ', '-', 'm', 's', '·', ' ']).2,
      c ≠ 'ſ' ∧ c ≠ 'ß' ∧ c ≠ 'İ' := by
    rw [hbody]
    simp
  refine ⟨hplain, (((read_by_format _).2.2.2 hplain).1 _).mpr ?_⟩
  rw [InFormat, hbody]
  exact ⟨List.cons_ne_nil _ _, ['m'], ['s', '·'], Twelfths.ofNat 7, 1000, rfl, .inr rfl, rfl, rfl⟩

/-- A sharp s is read as six twelfths, which it does not write, and a dotted capital I is no faulty
numeral. -/
theorem read_beyond_format :
    (∃ v, read ['ß'] = .ok v ∧ ¬InFormat WritesGlyphs ['ß'] v) ∧
      read ['İ'] = .error (.unlisted ['İ']) := by
  refine ⟨⟨_, rfl, ?_⟩, read_of_dotted (m := ['İ']) (t := noTwelfths) rfl rfl rfl (by decide)⟩
  rintro ⟨-, m, g, t, n, hbody, hn, hg, -⟩
  have hsplit : m ++ g = ['ß'] := hbody.symm
  rcases List.append_eq_singleton_iff.mp hsplit with ⟨rfl, rfl⟩ | ⟨rfl, rfl⟩
  · have hglyphs : ∀ t, ¬WritesGlyphs ['ß'] t := by
      unfold WritesGlyphs
      decide
    exact hglyphs t hg
  · rcases hn with ⟨hnil, -⟩ | hvalue
    · cases hnil
    · cases (show Numeral.value? ['ß'] = .ok none from rfl).symm.trans hvalue

/-! ## Reading what is written -/

theorem not_blank_of_mem_written {row : List Numeral.Glyph} {t : Twelfths} {c : Char}
    (h : c ∈ Numeral.spell row ++ glyphs t) : Text.isBlank c = false ∧ c ≠ '-' := by
  rcases List.mem_append.mp h with hnumeral | hglyph
  · rcases Numeral.mem_spell hnumeral with rfl | ⟨l, rfl⟩
    · decide
    · cases l <;> decide
  · rw [glyphs_eq] at hglyph
    obtain ⟨mark, -, rfl⟩ := List.mem_map.mp hglyph
    cases mark <;> decide

/-- The sign of a number that has been written, and what is behind it. -/
theorem signAndBody_written (x : Float) {y : Float} (hne : written y ≠ []) :
    signAndBody (if x < 0.0 then '-' :: written y else written y) =
      (if x < 0.0 then -1.0 else 1.0, written y) := by
  obtain ⟨c, rest, hwritten⟩ := List.exists_cons_of_ne_nil hne
  have hblanks : ∀ c ∈ written y, Text.isBlank c = false :=
    fun c hc => (not_blank_of_mem_written hc).1
  have hminus : c ≠ '-' := (not_blank_of_mem_written (hwritten ▸ List.mem_cons_self)).2
  split
  · have hall : ∀ c ∈ '-' :: written y, Text.isBlank c = false :=
      List.forall_mem_cons.mpr ⟨by decide, hblanks⟩
    rw [signAndBody, Text.trim_of_no_blanks (List.cons_ne_nil _ _) hall]
    rfl
  · rw [signAndBody, Text.trim_of_no_blanks hne hblanks, hwritten]
    split
    · next h => exact absurd (List.cons.inj h).1 hminus
    · rfl

theorem readWhole_standard {n : Nat} (hn : n ≤ 3999) :
    readWhole (Numeral.spell (Numeral.glyphs n)) = .ok n := by
  rw [readWhole_eq_ok_iff, Numeral.glyphs_eq_map_plain (by omega), Numeral.spell_map_plain]
  rcases Nat.eq_zero_or_pos n with rfl | hpos
  · exact .inl ⟨rfl, rfl⟩
  · right
    rw [Numeral.value?_of_letters (Numeral.ofChars?_spell _), Numeral.lettersValue_standard,
      if_pos (Numeral.isWellFormed_standard hpos (by omega))]

/-- Nothing is written for zero only. -/
theorem written_ne_nil {x : Float} {w : Nat} (hw : (split x).1 = w) (hle : w ≤ 3999)
    (hne : split x ≠ (0, noTwelfths)) : written x ≠ [] := by
  rw [written, hw, Int.toNat_natCast]
  intro hnil
  obtain ⟨hnumeral, hglyphs⟩ := List.append_eq_nil_iff.mp hnil
  have hread := readWhole_standard hle
  rw [hnumeral] at hread
  obtain rfl : 0 = w := Except.ok.inj hread
  exact hne (Prod.ext hw (glyphs_eq_nil_iff.mp hglyphs))

/-- What is written for a number is read back as the number in whole twelfths. -/
theorem read_ofFloat {x : Float} (hfinite : x.isFinite = true)
    (hne : split (magnitude x) ≠ (0, noTwelfths)) (hwhole : (split (magnitude x)).1 ≤ 3999) :
    ∃ text, ofFloat x = .ok text ∧
      read text = .ok ((if x < 0.0 then -1.0 else 1.0) *
        (Float.ofInt (split (magnitude x)).1 + Float.ofNat (split (magnitude x)).2 / 12.0)) := by
  have hlargest : (split (magnitude x)).1 ≤ Numeral.largest := le_trans hwhole (by decide)
  obtain ⟨w, hw⟩ := Int.eq_ofNat_of_zero_le (split_fst_nonneg hfinite)
  have hle : w ≤ 3999 := by omega
  have hnotNil := written_ne_nil hw hle hne
  have hwritten : written (magnitude x) =
      Numeral.spell (Numeral.glyphs w) ++ glyphs (split (magnitude x)).2 := by
    rw [written, hw, Int.toNat_natCast]
  have hbody := signAndBody_written x hnotNil
  have hbehind := congrArg Prod.snd hbody
  refine ⟨_, ofFloat_eq hfinite hlargest, ?_⟩
  rw [read_of_body (hbehind.trans hwritten) (ne_of_eq_of_ne hbehind hnotNil) (markless_spell _)
    (readsGlyphs_glyphs _), readWhole_standard hle, hbody, hw]
  rfl

/-- Minus one and three quarters. -/
theorem read_ofFloat_dodrans :
    (-1.75 : Float).isFinite = true ∧ split (magnitude (-1.75)) = (1, Twelfths.ofNat 9) ∧
      ofFloat (-1.75) = .ok ['-', 'I', 'S', '∴'] ∧
      read ['-', 'I', 'S', '∴'] =
        .ok (-1.0 * (Float.ofInt 1 + Float.ofNat (Twelfths.ofNat 9) / 12.0)) := by
  have hsplit : split (magnitude (-1.75)) = (1, Twelfths.ofNat 9) := rfl
  have hwritten : ofFloat (-1.75) = .ok ['-', 'I', 'S', '∴'] := rfl
  obtain ⟨text, htext, hread⟩ := read_ofFloat (x := -1.75) rfl (by rw [hsplit]; decide)
    (by rw [hsplit]; decide)
  obtain rfl := Except.ok.inj (hwritten.symm.trans htext)
  rw [hsplit, if_pos (by decide)] at hread
  exact ⟨rfl, hsplit, hwritten, hread⟩

end RomanCalc.Uncia
