import Mathlib.Data.List.Basic
import RomanCalc.Proofs.Numeral.Ranks
import RomanCalc.Proofs.Text.Decomposition

/-!
# Respelled numerals

A numeral may be respelled: its letters in either case, and a letter with its overline as one
precomposed character (`Respelling`). Reading takes the capitals of a text apart first, so all
spellings of a text weigh the same (`decode_respelling`), and every spelling of a written number is
read as the number (`decode_encode`). Numbers with too many digits are not even reported as too
large (`encode_beyond_digits`).
-/

namespace RomanCalc.Numeral

/-- The spellings of a text. A numeral letter may change its case, and a letter with an overline
behind it may become the precomposed character of the two. -/
inductive Respelling : List Char → List Char → Prop
  | nil : Respelling [] []
  | keep {s t : List Char} (c : Char) : Respelling s t → Respelling (c :: s) (c :: t)
  | letter {s t : List Char} {c d : Char} {l : Letter} (hc : Letter.ofChar? c = some l)
      (hd : Letter.ofChar? d = some l) : Respelling s t → Respelling (c :: s) (d :: t)
  | compose {s t : List Char} {c d p : Char} {l : Letter} (hc : Letter.ofChar? c = some l)
      (hd : Letter.ofChar? d = some l) (hp : Text.decomposeChar p = [d, overline]) :
      Respelling s t → Respelling (c :: overline :: s) (p :: t)

theorem Respelling.refl (text : List Char) : Respelling text text := by
  induction text with
  | nil => exact .nil
  | cons c text ih => exact .keep c ih

/-! ## Precomposed letters -/

/-- Whether an entry of the table takes a character apart into a numeral letter and its overline. -/
def isOverlinedLetter (entry : Nat × List Nat) : Bool :=
  match entry.2.map Char.ofNat with
  | [c, mark] => mark = overline && isLetterChar c
  | _ => false

theorem filter_isOverlinedLetter :
    Text.decompositionSequences.filter isOverlinedLetter =
      [(0x12A, [0x49, 0x304]), (0x12B, [0x69, 0x304])] := by
  decide +kernel

/-- The letter `I` alone has precomposed characters with an overline. -/
theorem eq_of_decomposeChar_overlined {p d : Char} {l : Letter} (hd : Letter.ofChar? d = some l)
    (hp : Text.decomposeChar p = [d, overline]) : l = .I ∧ (p = 'Ī' ∨ p = 'ī') := by
  obtain ⟨codes, hmem, hcodes⟩ := Text.exists_sequence hp (by decide)
  have hoverlined : isOverlinedLetter (p.toNat, codes) = true := by
    simp [isOverlinedLetter, isLetterChar, hcodes, hd]
  have hlisted : (p.toNat, codes) ∈ [(0x12A, [0x49, 0x304]), (0x12B, [0x69, 0x304])] := by
    rw [← filter_isOverlinedLetter]
    exact List.mem_filter.mpr ⟨hmem, hoverlined⟩
  have hchar : p = Char.ofNat p.toNat := (Char.ofNat_toNat p).symm
  simp only [List.mem_cons, List.not_mem_nil, or_false, Prod.mk.injEq] at hlisted
  rcases hlisted with ⟨hcode, rfl⟩ | ⟨hcode, rfl⟩
  all_goals
    rw [hcode] at hchar
    obtain ⟨rfl, -⟩ := List.cons.inj hcodes
    cases hd
  · exact ⟨rfl, .inl hchar⟩
  · exact ⟨rfl, .inr hchar⟩

/-! ## Reading a respelled text -/

theorem decomposeChar_char (l : Letter) : Text.decomposeChar l.char = [l.char] := by
  cases l <;> rfl

theorem decomposeChar_overline : Text.decomposeChar overline = [overline] := by
  decide +kernel

theorem upperChar_overline : Text.upperChar overline = [overline] := by
  decide +kernel

theorem decompose_upper_letter {c : Char} {l : Letter} (h : Letter.ofChar? c = some l) :
    (Text.upperChar c).flatMap Text.decomposeChar = [l.char] := by
  rw [Letter.upperChar_of_ofChar? h, List.flatMap_singleton, decomposeChar_char]

theorem decompose_upper_precomposed {p : Char} (h : p = 'Ī' ∨ p = 'ī') :
    (Text.upperChar p).flatMap Text.decomposeChar = ['I', overline] := by
  rcases h with rfl | rfl <;> decide +kernel

theorem decompose_upper_respelling {s t : List Char} (h : Respelling s t) :
    (Text.upper t).flatMap Text.decomposeChar = (Text.upper s).flatMap Text.decomposeChar := by
  induction h with
  | nil => rfl
  | keep c _ ih =>
    rw [Text.upper_cons, Text.upper_cons, List.flatMap_append, List.flatMap_append, ih]
  | letter hc hd _ ih =>
    rw [Text.upper_cons, Text.upper_cons, List.flatMap_append, List.flatMap_append, ih,
      decompose_upper_letter hc, decompose_upper_letter hd]
  | compose hc hd hp _ ih =>
    obtain ⟨rfl, hp⟩ := eq_of_decomposeChar_overlined hd hp
    simp only [Text.upper_cons, List.flatMap_append, ih, decompose_upper_letter hc,
      decompose_upper_precomposed hp, upperChar_overline, List.flatMap_singleton,
      decomposeChar_overline]
    rfl

/-- All spellings of a text weigh the same. -/
theorem decode_respelling {s t : List Char} (h : Respelling s t) : decode t = decode s := by
  rw [decode, decode, Text.decompose, Text.decompose, decompose_upper_respelling h]

/-! ## Reading a written number -/

theorem mem_spell {row : List Glyph} {c : Char} (h : c ∈ spell row) :
    c = overline ∨ ∃ l : Letter, c = l.char := by
  obtain ⟨⟨l, overlined⟩, -, hc⟩ := List.mem_flatMap.mp h
  cases overlined with
  | false => exact .inr ⟨l, List.mem_singleton.mp hc⟩
  | true =>
    rcases List.mem_cons.mp hc with rfl | hc
    · exact .inr ⟨l, rfl⟩
    · exact .inl (List.mem_singleton.mp hc)

theorem flatMap_spell {f : Char → List Char} (hoverline : f overline = [overline])
    (hletter : ∀ l : Letter, f l.char = [l.char]) (row : List Glyph) :
    (spell row).flatMap f = spell row := by
  have hchar : ∀ c ∈ spell row, f c = [c] := by
    intro c hc
    rcases mem_spell hc with rfl | ⟨l, rfl⟩
    · exact hoverline
    · exact hletter l
  rw [List.flatMap_congr hchar, List.flatMap_singleton']

theorem upperChar_char (l : Letter) : Text.upperChar l.char = [l.char] :=
  Letter.upperChar_of_ofChar? (Letter.ofChar?_char l)

/-- A written numeral is in capitals and taken apart already. -/
theorem decompose_upper_spell (row : List Glyph) :
    Text.decompose (Text.upper (spell row)) = spell row := by
  rw [Text.upper, flatMap_spell upperChar_overline upperChar_char, Text.decompose,
    flatMap_spell decomposeChar_overline decomposeChar_char]
  apply Text.orderMarks_eq_self (k := Text.combiningClass overline)
  intro c hc
  rcases mem_spell hc with rfl | ⟨l, rfl⟩
  · exact .inr rfl
  · left
    cases l <;> rfl

theorem takeWhile_spell (row : List Glyph) : (spell row).takeWhile (· = overline) = [] := by
  cases row with
  | nil => rfl
  | cons glyph row =>
    obtain ⟨l, overlined⟩ := glyph
    cases l <;> cases overlined <;> rfl

theorem weights_spell (row : List Glyph) : weights (spell row) = row.map Glyph.weight := by
  induction row with
  | nil => rfl
  | cons glyph row ih =>
    obtain ⟨l, overlined⟩ := glyph
    have hne : l.char ≠ overline := by cases l <;> decide
    have hweight : charWeight l.char = l.weight := by simp [charWeight]
    cases overlined with
    | false =>
      change weights (l.char :: spell row) = l.weight :: row.map Glyph.weight
      rw [weights, if_neg hne, takeWhile_spell, hweight, ih]
      simp
    | true =>
      change weights (l.char :: overline :: spell row) = 1000 * l.weight :: row.map Glyph.weight
      rw [weights, if_neg hne, weights, if_pos rfl, ih, hweight]
      simp [takeWhile_spell, Nat.mul_comm]

/-- Glyphs are read as what they weigh. -/
theorem decode_spell (row : List Glyph) : decode (spell row) = weigh (row.map Glyph.weight) := by
  rw [decode, decompose_upper_spell, weights_spell]

/-- A written number is read back, however its numeral is respelled. -/
theorem exists_encode {n : Int} (hpos : 0 < n) (hn : n ≤ largest) :
    ∃ text, encode n = .ok text ∧ ∀ t, Respelling text t → decode t = n := by
  refine ⟨_, encode_of_le hn, ?_⟩
  intro t ht
  rw [decode_respelling ht, decode_spell, weigh_glyphs, Int.toNat_of_nonneg hpos.le]

section

open Number (maxIntegerDigits lt_pow_maxIntegerDigits)

/-- Reading undoes writing. Numbers below one are written as nothing, and any number up to the
largest numeral is read back from every spelling of its numeral, so that no two of them share a
numeral. A number beyond is reported as too large as long as its digits can be written: naming a
longer one fails itself. -/
theorem decode_encode (n : Int) :
    (n ≤ 0 → encode n = .ok []) ∧
      (400000 ≤ n → n < 10 ^ maxIntegerDigits →
        encode n = .error (.fault (.numeralTooLarge n.toNat))) ∧
      (10 ^ maxIntegerDigits ≤ n → encode n = .error (.badInteger .tooLong)) ∧
      (1 ≤ n → n ≤ 399999 →
        (∃ text, encode n = .ok text ∧ ∀ t, Respelling text t → decode t = n) ∧
          ∀ m, 1 ≤ m → m ≤ 399999 → encode m = encode n → m = n) := by
  have hcast : ((10 ^ maxIntegerDigits : Nat) : Int) = 10 ^ maxIntegerDigits := Nat.cast_pow 10 _
  refine ⟨?_, ?_, ?_, ?_⟩
  · intro hn
    rw [encode_of_le (Int.le_trans hn (by decide)), Int.toNat_of_nonpos hn]
    rfl
  · intro hn hlt
    have hdigits : n.toNat < 10 ^ maxIntegerDigits := by omega
    rw [encode_of_lt (Int.lt_of_lt_of_le (by decide) hn), failure_of_lt hdigits]
  · intro hn
    have hdigits : 10 ^ maxIntegerDigits ≤ n.toNat := by omega
    have hlargest : largest < 10 ^ maxIntegerDigits :=
      lt_pow_maxIntegerDigits (by decide : largest < 10 ^ 6) (by decide)
    have hlarge : largest < n.toNat := Nat.lt_of_lt_of_le hlargest hdigits
    rw [encode_of_lt (Int.lt_toNat.mp hlarge), failure_of_le hdigits]
  · intro hn hn'
    obtain ⟨text, htext, hread⟩ := exists_encode hn hn'
    refine ⟨⟨text, htext, hread⟩, ?_⟩
    intro m hm hm' h
    obtain ⟨text', htext', hread'⟩ := exists_encode hm hm'
    obtain rfl : text' = text := Except.ok.inj (htext'.symm.trans (h.trans htext))
    rw [← hread text' (.refl text'), ← hread' text' (.refl text')]

/-- Nine thousand and four in small letters, with the overlined one composed. -/
theorem decode_encode_composed :
    encode 9004 = .ok ['I', overline, 'X', overline, 'I', 'V'] ∧
      Respelling ['I', overline, 'X', overline, 'I', 'V'] ['ī', 'x', overline, 'I', 'v'] ∧
      decode ['ī', 'x', overline, 'I', 'v'] = 9004 := by
  have hencode : encode 9004 = .ok ['I', overline, 'X', overline, 'I', 'V'] := rfl
  have hrespelling :
      Respelling ['I', overline, 'X', overline, 'I', 'V'] ['ī', 'x', overline, 'I', 'v'] :=
    .compose (d := 'i') rfl rfl (by decide +kernel)
      (.letter rfl rfl (.keep overline (.keep 'I' (.letter rfl rfl .nil))))
  obtain ⟨-, -, -, hround⟩ := decode_encode 9004
  obtain ⟨⟨text, htext, hread⟩, -⟩ := hround (by decide) (by decide)
  obtain rfl := Except.ok.inj (hencode.symm.trans htext)
  exact ⟨hencode, hrespelling, hread _ hrespelling⟩

/-- The first number whose digits cannot be written is above the largest numeral and is not
reported as too large. -/
theorem encode_beyond_digits :
    400000 ≤ (10 ^ maxIntegerDigits : Nat) ∧
      encode (10 ^ maxIntegerDigits : Nat) = .error (.badInteger .tooLong) ∧
      encode (10 ^ maxIntegerDigits : Nat) ≠
        .error (.fault (.numeralTooLarge (10 ^ maxIntegerDigits))) := by
  have hlarge : 400000 < 10 ^ maxIntegerDigits :=
    lt_pow_maxIntegerDigits (by decide : 400000 < 10 ^ 6) (by decide)
  have hencode :
      encode (10 ^ maxIntegerDigits : Nat) = .error (.badInteger .tooLong) := by
    rw [encode_of_lt (Int.ofNat_lt.mpr (Nat.lt_trans (by decide) hlarge)), Int.toNat_natCast,
      failure_of_le (Nat.le_refl _)]
  refine ⟨Nat.le_of_lt hlarge, hencode, ?_⟩
  rw [hencode]
  intro h
  cases h

end

end RomanCalc.Numeral
