import Mathlib.Tactic.IntervalCases
import RomanCalc.Proofs.Number.Style
import RomanCalc.Proofs.Numeral.Standard

/-!
# The decimal ranks of written numerals

The table of values is made of decimal ranks, each with the values that write its digits. Taking
the largest value that fits therefore writes a number digit by digit (`glyphs_eq`), although the
thousands mix plain and overlined glyphs. Weighed from the right, the digits give the number back
(`weigh_glyphs`), since what stands behind a digit starts with less than a unit of its rank.
-/

namespace RomanCalc.Numeral

/-- What a glyph counts. -/
def Glyph.weight (glyph : Glyph) : Nat :=
  if glyph.overlined then 1000 * glyph.letter.weight else glyph.letter.weight

/-- The glyphs that write one decimal place. A unit that stands before a five or a ten may be
written otherwise than one that is repeated. -/
structure Rank where
  /-- What a unit is worth. -/
  worth : Nat
  unit : Glyph
  before : Glyph
  five : Glyph
  ten : Glyph

namespace Rank

/-- The rows of the table that write the digits of a rank. -/
def rows (rank : Rank) : List (Nat × List Glyph) :=
  [(9, [rank.before, rank.ten]), (5, [rank.five]), (4, [rank.before, rank.five]),
    (1, [rank.unit])].map fun row => (row.1 * rank.worth, row.2)

/-- The standard form of a digit. -/
def digit (rank : Rank) : Nat → List Glyph
  | 4 => [rank.before, rank.five]
  | 9 => [rank.before, rank.ten]
  | d => List.replicate (d / 5) rank.five ++ List.replicate (d % 5) rank.unit

/-- The rank of a place whose letters all carry the same mark. -/
def ofPlace (mark : Letter → Glyph) (worth : Nat) (place : Place) : Rank :=
  ⟨worth, mark place.unit, mark place.unit, mark place.five, mark place.ten⟩

theorem digit_ofPlace (mark : Letter → Glyph) (worth : Nat) (place : Place) (d : Nat) :
    (ofPlace mark worth place).digit d = (place.digit d).map mark := by
  unfold digit Place.digit
  split
  · rfl
  · rfl
  · simp [ofPlace]

theorem worth_ofPlace (mark : Letter → Glyph) (worth : Nat) (place : Place) :
    (ofPlace mark worth place).worth = worth := rfl

theorem digit_of_lt_four (rank : Rank) {d : Nat} (h : d < 4) :
    rank.digit d = List.replicate d rank.unit := by
  interval_cases d <;> rfl

/-- The glyphs of a rank weigh as many units as they stand for. -/
structure Weighed (rank : Rank) : Prop where
  unit : rank.unit.weight = rank.worth
  before : rank.before.weight = rank.worth
  five : rank.five.weight = 5 * rank.worth
  ten : rank.ten.weight = 10 * rank.worth

end Rank

/-- The ranks below a thousand, without overlines. -/
def plainRanks : List Rank :=
  [.ofPlace plain 100 hundreds, .ofPlace plain 10 tens, .ofPlace plain 1 ones]

/-- The ranks below a hundred thousand. Thousands are overlined ones, except that a repeated unit
is a plain `M`. -/
def ranks : List Rank :=
  .ofPlace vinculum 10000 tens :: { Rank.ofPlace vinculum 1000 ones with unit := plain .M } ::
    plainRanks

theorem table_eq : table = (100000, [vinculum .C]) :: ranks.flatMap Rank.rows := rfl

/-- The decimal digits of a number, each in the standard form of its rank. -/
def writeDigits : List Rank → Nat → List Glyph
  | [], _ => []
  | rank :: rest, n => rank.digit (n / rank.worth) ++ writeDigits rest (n % rank.worth)

/-- Ranks that fall by tens down to the ones, with the bound of the numbers they write. -/
inductive Falling : List Rank → Nat → Prop
  | nil : Falling [] 1
  | cons {rank : Rank} {rest : List Rank} :
    rank.Weighed → Falling rest rank.worth → Falling (rank :: rest) (10 * rank.worth)

theorem Falling.pos {list : List Rank} {bound : Nat} (h : Falling list bound) : 0 < bound := by
  induction h with
  | nil => exact Nat.one_pos
  | cons _ _ ih => omega

theorem plainRanks_falling : Falling plainRanks 1000 :=
  .cons (by constructor <;> rfl)
    (.cons (by constructor <;> rfl) (.cons (by constructor <;> rfl) .nil))

theorem ranks_falling : Falling ranks 100000 :=
  .cons (by constructor <;> rfl) (.cons (by constructor <;> rfl) plainRanks_falling)

/-! ## Writing -/

/-- A row worth several units is used on the units, and what is less than a unit stays. -/
theorem greedy_row {worth r : Nat} (hr : r < worth) (m : Nat) (row : List Glyph)
    (rows : List (Nat × List Glyph)) (k : Nat) :
    greedy ((m * worth, row) :: rows) (k * worth + r) =
      (List.replicate (k / m) row).flatten ++ greedy rows (k % m * worth + r) := by
  obtain ⟨hunits, hrest⟩ : (k * worth + r) / worth = k ∧ (k * worth + r) % worth = r :=
    (Nat.div_mod_unique (Nat.zero_lt_of_lt hr)).mpr ⟨by rw [Nat.add_comm, Nat.mul_comm], hr⟩
  rw [greedy, Nat.mul_comm m worth, ← Nat.div_div_eq_div_mul, Nat.mod_mul, hunits, hrest,
    Nat.add_comm r, Nat.mul_comm worth]

/-- The rows of a rank write the digit of the rank. -/
theorem greedy_rows (rank : Rank) (rows : List (Nat × List Glyph)) {d r : Nat} (hd : d < 10)
    (hr : r < rank.worth) :
    greedy (rank.rows ++ rows) (d * rank.worth + r) = rank.digit d ++ greedy rows r := by
  simp only [Rank.rows, List.map_cons, List.map_nil, List.cons_append, List.nil_append,
    greedy_row hr]
  interval_cases d <;> simp [Rank.digit]

theorem greedy_ranks {list : List Rank} {bound n : Nat} (h : Falling list bound) (hn : n < bound) :
    greedy (list.flatMap Rank.rows) n = writeDigits list n := by
  induction h generalizing n with
  | nil => rfl
  | @cons rank rest _ hrest ih =>
    have hdigit : n / rank.worth < 10 := Nat.div_lt_of_lt_mul (by omega)
    have hmod : n % rank.worth < rank.worth := Nat.mod_lt n hrest.pos
    rw [List.flatMap_cons, writeDigits, ← ih hmod, ← greedy_rows rank _ hdigit hmod,
      Nat.mul_comm, Nat.div_add_mod]

/-- The greedy choice over the table writes the decimal digits of a number. -/
theorem glyphs_eq (n : Nat) :
    glyphs n = List.replicate (n / 100000) (vinculum .C) ++ writeDigits ranks (n % 100000) := by
  have hmod : n % 100000 < 100000 := Nat.mod_lt n (by decide)
  rw [glyphs, table_eq, greedy, greedy_ranks ranks_falling hmod]
  simp

theorem ofNat_of_le {n : Nat} (h : n ≤ largest) : ofNat n = .ok (spell (glyphs n)) :=
  if_neg (Nat.not_lt.mpr h)

theorem ofNat_of_lt {n : Nat} (h : largest < n) : ofNat n = .error (.numeralTooLarge n) :=
  if_pos h

theorem encode_of_le {n : Int} (h : n ≤ largest) : encode n = .ok (spell (glyphs n.toNat)) := by
  rw [encode, ofNat_of_le (Int.toNat_le.mpr h)]
  rfl

theorem encode_of_lt {n : Int} (h : (largest : Int) < n) :
    encode n = .error (failure n.toNat (.numeralTooLarge n.toNat)) := by
  rw [encode, ofNat_of_lt (Int.lt_toNat.mpr h)]
  rfl

theorem encodeSigned_of_le {n : Int} (h : n.natAbs ≤ largest) :
    encodeSigned n =
      .ok (if n < 0 then '-' :: spell (glyphs n.natAbs) else spell (glyphs n.natAbs)) := by
  rw [encodeSigned, ofNat_of_le h]
  rfl

theorem encodeSigned_of_lt {n : Int} (h : largest < n.natAbs) :
    encodeSigned n = .error (.numeralTooLarge n.natAbs) := by
  rw [encodeSigned, ofNat_of_lt h]
  rfl

section

open Number (maxIntegerDigits)

/-- A number that has no numeral is named as long as its digits can be written. -/
theorem failure_of_lt {n : Nat} (h : n < 10 ^ maxIntegerDigits) (fault : Fault) :
    failure n fault = .fault fault := by
  rw [failure, Number.writeInt_eq, Int.natAbs_natCast, if_pos h]

theorem failure_of_le {n : Nat} (h : 10 ^ maxIntegerDigits ≤ n) (fault : Fault) :
    failure n fault = .badInteger .tooLong := by
  rw [failure, Number.writeInt_eq, Int.natAbs_natCast, if_neg (Nat.not_lt.mpr h)]

/-- Where the digits of a number can be written, its numeral with a sign is the numeral of its
magnitude behind the sign, and the two fail alike. -/
theorem encodeSigned_eq {n : Int} (h : n.natAbs < 10 ^ maxIntegerDigits) :
    (encodeSigned n).mapError .fault =
      (encode n.natAbs).map fun text => if n < 0 then '-' :: text else text := by
  rw [encodeSigned, encode, Int.toNat_natCast]
  cases ofNat n.natAbs with
  | ok text => rfl
  | error fault => exact congrArg Except.error (failure_of_lt h fault).symm

end

/-- Where the first rank has no unit, the number is written by the ranks below it. -/
theorem writeDigits_cons_of_lt {rank : Rank} (rest : List Rank) {n : Nat} (h : n < rank.worth) :
    writeDigits (rank :: rest) n = writeDigits rest n := by
  rw [writeDigits, Nat.div_eq_of_lt h, Nat.mod_eq_of_lt h]
  rfl

/-! ## Weighing -/

theorem weigh_cons {w : Nat} {ws : List Nat} (h : ws.headD 0 ≤ w) :
    weigh (w :: ws) = w + weigh ws := by
  rw [weigh, if_neg (Nat.not_lt.mpr h), Int.add_comm]

theorem weigh_cons_cons {v w : Nat} {ws : List Nat} (hvw : v < w) (h : ws.headD 0 ≤ w) :
    weigh (v :: w :: ws) = w - v + weigh ws := by
  rw [weigh, List.headD_cons, if_pos hvw, weigh_cons h]
  omega

theorem headD_replicate_append_le (w k : Nat) (ws : List Nat) :
    (List.replicate k w ++ ws).headD 0 ≤ max w (ws.headD 0) := by
  cases k with
  | zero => exact Nat.le_max_right _ _
  | succ k => exact Nat.le_max_left _ _

theorem weigh_replicate_append {w : Nat} {ws : List Nat} (h : ws.headD 0 ≤ w) (k : Nat) :
    weigh (List.replicate k w ++ ws) = (k * w : Nat) + weigh ws := by
  induction k with
  | zero => simp
  | succ k ih =>
    have hhead : (List.replicate k w ++ ws).headD 0 ≤ w :=
      Nat.le_trans (headD_replicate_append_le w k ws) (Nat.max_le.mpr ⟨Nat.le_refl w, h⟩)
    rw [List.replicate_succ, List.cons_append, weigh_cons hhead, ih, Nat.succ_mul]
    omega

namespace Rank.Weighed

variable {rank : Rank}

theorem headD_digit_append_le (hrank : rank.Weighed) (d : Nat) (ws : List Nat) :
    ((rank.digit d).map Glyph.weight ++ ws).headD 0 ≤ max (5 * rank.worth) (ws.headD 0) := by
  obtain ⟨hunit, hbefore, hfive, -⟩ := hrank
  have hunits := headD_replicate_append_le rank.worth (d % 5) ws
  have hfives := headD_replicate_append_le (5 * rank.worth) (d / 5)
    (List.replicate (d % 5) rank.worth ++ ws)
  unfold Rank.digit
  split
  · change rank.before.weight ≤ _
    omega
  · change rank.before.weight ≤ _
    omega
  · rw [List.map_append, List.map_replicate, List.map_replicate, hunit, hfive, List.append_assoc]
    omega

/-- A digit of a rank counts as many units as it says. -/
theorem weigh_digit_append (hrank : rank.Weighed) (hpos : 0 < rank.worth) (d : Nat)
    {ws : List Nat} (h : ws.headD 0 ≤ rank.worth) :
    weigh ((rank.digit d).map Glyph.weight ++ ws) = (d * rank.worth : Nat) + weigh ws := by
  obtain ⟨hunit, hbefore, hfive, hten⟩ := hrank
  unfold Rank.digit
  split
  · change weigh (rank.before.weight :: rank.five.weight :: ws) = _
    rw [hbefore, hfive, weigh_cons_cons (by omega) (by omega)]
    omega
  · change weigh (rank.before.weight :: rank.ten.weight :: ws) = _
    rw [hbefore, hten, weigh_cons_cons (by omega) (by omega)]
    omega
  · have hunits := headD_replicate_append_le rank.worth (d % 5) ws
    have hsplit : d * rank.worth = d / 5 * (5 * rank.worth) + d % 5 * rank.worth := by
      rw [← Nat.mul_assoc, ← Nat.add_mul, Nat.mul_comm (d / 5), Nat.div_add_mod]
    rw [List.map_append, List.map_replicate, List.map_replicate, hunit, hfive, List.append_assoc,
      weigh_replicate_append (by omega), weigh_replicate_append h, hsplit, Nat.cast_add]
    omega

end Rank.Weighed

/-- Digits of falling ranks start with less than a unit of the rank above them. -/
theorem headD_writeDigits_lt {list : List Rank} {bound : Nat} (h : Falling list bound) (n : Nat) :
    ((writeDigits list n).map Glyph.weight).headD 0 < bound := by
  induction h generalizing n with
  | nil => exact Nat.one_pos
  | @cons rank rest hrank hrest ih =>
    have hdigit := hrank.headD_digit_append_le (n / rank.worth)
      ((writeDigits rest (n % rank.worth)).map Glyph.weight)
    have hbehind := ih (n % rank.worth)
    rw [writeDigits, List.map_append]
    omega

/-- Digits of falling ranks weigh the number that they write. -/
theorem weigh_writeDigits {list : List Rank} {bound n : Nat} (h : Falling list bound)
    (hn : n < bound) : weigh ((writeDigits list n).map Glyph.weight) = n := by
  induction h generalizing n with
  | nil =>
    obtain rfl : n = 0 := by omega
    rfl
  | @cons rank rest hrank hrest ih =>
    have hhead := headD_writeDigits_lt hrest (n % rank.worth)
    rw [writeDigits, List.map_append, hrank.weigh_digit_append hrest.pos _ hhead.le,
      ih (Nat.mod_lt n hrest.pos), ← Nat.cast_add, Nat.mul_comm, Nat.div_add_mod]

/-- The glyphs of a number weigh the number. -/
theorem weigh_glyphs (n : Nat) : weigh ((glyphs n).map Glyph.weight) = n := by
  have hweigh := weigh_writeDigits ranks_falling (Nat.mod_lt n (by decide))
  have hhead := headD_writeDigits_lt ranks_falling (n % 100000)
  have hweight : (vinculum .C).weight = 100000 := rfl
  rw [glyphs_eq, List.map_append, List.map_replicate, hweight, weigh_replicate_append hhead.le,
    hweigh]
  omega

/-! ## Plain numerals -/

theorem map_plain_standard (n : Nat) :
    (standard n).map plain =
      List.replicate (n / 1000) (plain .M) ++ writeDigits plainRanks (n % 1000) := by
  have hhundreds : n % 1000 / 100 = n / 100 % 10 := by omega
  have htens : n % 1000 % 100 / 10 = n / 10 % 10 := by omega
  have hones : n % 1000 % 100 % 10 / 1 = n % 10 := by omega
  simp only [standard, plainRanks, writeDigits, Rank.digit_ofPlace, Rank.worth_ofPlace,
    List.map_append, List.map_replicate, List.append_nil, hhundreds, htens, hones]

/-- Below four thousand no glyph is overlined. -/
theorem glyphs_eq_map_plain {n : Nat} (h : n < 4000) : glyphs n = (standard n).map plain := by
  have hdiv : n / 100000 = 0 := by omega
  have hmod : n % 100000 = n := by omega
  rw [glyphs_eq, hdiv, hmod, List.replicate_zero, List.nil_append, ranks,
    writeDigits_cons_of_lt _ (by rw [Rank.worth_ofPlace]; omega), writeDigits,
    Rank.digit_of_lt_four _ (by rw [Rank.worth_ofPlace]; omega), map_plain_standard]
  rfl

theorem glyphs_of_lt_thousand {n : Nat} (h : n < 1000) : glyphs n = writeDigits plainRanks n := by
  have hdiv : n / 1000 = 0 := by omega
  have hmod : n % 1000 = n := by omega
  rw [glyphs_eq_map_plain (by omega), map_plain_standard, hdiv, hmod, List.replicate_zero,
    List.nil_append]

end RomanCalc.Numeral
