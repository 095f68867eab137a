import RomanCalc.Proofs.Numeral.Letters
import RomanCalc.Proofs.Numeral.Respelling

/-!
# The readings of a numeral

Four parts of the library speak of numerals: the grammar, the value of a numeral, the weight of any
text, and the writer. On texts of letters they agree (`readings_agree`): the numerals are the texts
that write a number below five thousand (`Writes`), with as many `M` as it has thousands and what
the writer makes of the rest, and every reading gives that number back. The writer itself agrees up
to where it starts to overline.
-/

namespace RomanCalc.Numeral

/-- A text writes a number below five thousand, in either case: an `M` for each thousand, and the
numeral of what is left. -/
def Writes (s : List Char) (n : Nat) : Prop :=
  1 ≤ n ∧ n ≤ 4999 ∧
    ∃ rest, encode (n % 1000 : Nat) = .ok rest ∧
      Text.upper s = List.replicate (n / 1000) 'M' ++ rest

theorem spell_map_plain (letters : List Letter) :
    spell (letters.map plain) = Letter.spell letters := by
  rw [spell, List.flatMap_map, Letter.spell, List.map_eq_flatMap]
  rfl

/-- The standard form of a number is an `M` for each thousand and the numeral of what is left. -/
theorem spell_standard (n : Nat) :
    ∃ rest, encode (n % 1000 : Nat) = .ok rest ∧
      Letter.spell (standard n) = List.replicate (n / 1000) 'M' ++ rest := by
  have hmod : n % 1000 < 1000 := Nat.mod_lt n (by decide)
  have hlargest : ((n % 1000 : Nat) : Int) ≤ largest := by
    rw [largest]
    omega
  refine ⟨_, encode_of_le hlargest, ?_⟩
  rw [Int.toNat_natCast, glyphs_of_lt_thousand hmod, ← spell_map_plain, map_plain_standard, spell,
    spell, List.flatMap_append, List.flatMap_replicate]
  simp [plain, Glyph.chars, Letter.char]

theorem decode_of_letters {s : List Char} {letters : List Letter}
    (h : Letter.ofChars? s = some letters) : decode s = decode (Letter.spell letters) := by
  apply decode_respelling
  induction s generalizing letters with
  | nil =>
    cases h
    exact .nil
  | cons c s ih =>
    obtain ⟨l, more, hl, hmore, rfl⟩ := ofChars?_cons_eq_some_iff.mp h
    exact .letter (Letter.ofChar?_char l) hl (ih hmore)

theorem decode_spell_standard (n : Nat) : decode (Letter.spell (standard n)) = n := by
  have hweigh := weigh_writeDigits plainRanks_falling (Nat.mod_lt n (by decide))
  have hhead := headD_writeDigits_lt plainRanks_falling (n % 1000)
  have hweight : (plain .M).weight = 1000 := rfl
  rw [← spell_map_plain, decode_spell, map_plain_standard, List.map_append, List.map_replicate,
    hweight, weigh_replicate_append hhead.le, hweigh]
  omega

section

variable {s : List Char} {letters : List Letter}

/-- What writes a number are the letters of its standard form. -/
theorem writes_iff (h : Letter.ofChars? s = some letters) {n : Nat} :
    Writes s n ↔ 0 < n ∧ n < 5000 ∧ letters = standard n := by
  obtain ⟨rest, hrest, hspell⟩ := spell_standard n
  rw [Writes, upper_of_letters h]
  constructor
  · rintro ⟨hpos, hn, rest', hrest', hupper⟩
    obtain rfl : rest = rest' := Except.ok.inj (hrest.symm.trans hrest')
    exact ⟨hpos, by omega, spell_injective (hupper.trans hspell.symm)⟩
  · rintro ⟨hpos, hn, rfl⟩
    exact ⟨hpos, by omega, rest, hrest, hspell⟩

theorem isWellFormed_iff :
    isWellFormed letters = true ↔ ∃ n, 0 < n ∧ n < 5000 ∧ letters = standard n := by
  constructor
  · exact exists_standard
  · rintro ⟨n, hpos, hn, rfl⟩
    exact isWellFormed_standard hpos hn

theorem encode_eq_upper {n : Nat} (h : Letter.ofChars? s = some (standard n)) (hn : n ≤ 3999) :
    encode n = .ok (Text.upper s) := by
  have hlargest : (n : Int) ≤ largest := by
    rw [largest]
    omega
  rw [encode_of_le hlargest, Int.toNat_natCast, glyphs_eq_map_plain (by omega), spell_map_plain,
    upper_of_letters h]

end

/-- On texts of letters the grammar, both readings and the writer agree: the numerals are the texts
that write a number below five thousand, that number is the only one, it is the value and the weight
of the text, and below four thousand its numeral is the text in capitals. A text that is no numeral
has no value. -/
theorem readings_agree {s : List Char} (hletters : ∀ c ∈ s, isLetterChar c = true) :
    (isNumeral s = true ↔ ∃ n, Writes s n) ∧
      (∀ n, Writes s n →
        (∀ m, Writes s m → m = n) ∧ value? s = .ok (some n) ∧ decode s = n ∧
          (n ≤ 3999 → encode n = .ok (Text.upper s))) ∧
      (isNumeral s = false → value? s = .ok none) := by
  obtain ⟨letters, h⟩ := exists_letters hletters
  refine ⟨?_, ?_, ?_⟩
  · rw [isNumeral_of_letters h, isWellFormed_iff]
    exact exists_congr fun n => (writes_iff h).symm
  · intro n hn
    obtain ⟨hpos, hlt, rfl⟩ := (writes_iff h).mp hn
    refine ⟨?_, ?_, ?_, ?_⟩
    · intro m hm
      obtain ⟨-, -, hstandard⟩ := (writes_iff h).mp hm
      rw [← lettersValue_standard m, ← hstandard, lettersValue_standard]
    · rw [value?_of_letters h, isWellFormed_standard hpos hlt, lettersValue_standard]
      rfl
    · rw [decode_of_letters h, decode_spell_standard]
    · exact encode_eq_upper h
  · intro hnot
    rw [value?, hnot]
    rfl

/-- A numeral in mixed case, with a dotless letter. -/
theorem readings_agree_mixed :
    (∀ c ∈ ['m', 'C', 'm', 'X', 'c', 'ı', 'v'], isLetterChar c = true) ∧
      Writes ['m', 'C', 'm', 'X', 'c', 'ı', 'v'] 1994 ∧
      value? ['m', 'C', 'm', 'X', 'c', 'ı', 'v'] = .ok (some 1994) ∧
      decode ['m', 'C', 'm', 'X', 'c', 'ı', 'v'] = 1994 := by
  have hletters : ∀ c ∈ ['m', 'C', 'm', 'X', 'c', 'ı', 'v'], isLetterChar c = true :=
    List.all_eq_true.mp rfl
  have hwrites : Writes ['m', 'C', 'm', 'X', 'c', 'ı', 'v'] 1994 :=
    ⟨by decide, by decide, ['C', 'M', 'X', 'C', 'I', 'V'], rfl, by decide⟩
  obtain ⟨-, hread, -⟩ := readings_agree hletters
  obtain ⟨-, hvalue, hdecode, -⟩ := hread 1994 hwrites
  exact ⟨hletters, hwrites, hvalue, hdecode⟩

end RomanCalc.Numeral
