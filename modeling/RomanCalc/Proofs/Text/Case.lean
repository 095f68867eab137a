import RomanCalc.Proofs.Text.Decomposition
import RomanCalc.Text.Case

/-!
# Capitals of single characters

Where the capitals of a character come from (`upperChar_cases`): a basic character has a basic
capital, some characters have a row of capitals in a table, and all others have one character, which
is not basic unless it stands for the dotless i or the long s.
-/

namespace RomanCalc.Text

/-- What holds of the first characters by their codes holds of every basic character. -/
@[elab_as_elim] theorem forall_basic {p : Char → Prop} {c : Char} (hbasic : c.toNat < 0x80)
    (h : ∀ code < 0x80, p (Char.ofNat code)) : p c := by
  have hcode := h c.toNat hbasic
  rwa [Char.ofNat_toNat] at hcode

/-- The dotless i and the long s stand alone in their runs; all other counterparts are characters
beyond the basic ones, and none of them is the dotless i. -/
theorem upperRuns_range {run : CaseRun} (h : run ∈ upperRuns) :
    (run.first = 0x131 ∨ run.first = 0x17F) ∧ run.last = run.first ∨
      0x80 ≤ run.target ∧
        (run.target + (run.last - run.first) < 0x131 ∨ 0x131 < run.target) ∧
        (run.target + (run.last - run.first) < 0xD800 ∨
          0xDFFF < run.target ∧ run.target + (run.last - run.first) < 0x110000) := by
  revert run
  decide +kernel

theorem image?_eq_some {run : CaseRun} {code image : Nat} (h : run.image? code = some image) :
    run.first ≤ code ∧ code ≤ run.last ∧ image = run.target + (code - run.first) := by
  unfold CaseRun.image? at h
  split at h
  · next hrange =>
    cases h
    exact ⟨hrange.1, hrange.2.1, rfl⟩
  · cases h

/-- The counterpart of any other code point is no basic character and no dotless i. -/
theorem beyond_basic_of_image? {run : CaseRun} (hrun : run ∈ upperRuns) {code image : Nat}
    (h : run.image? code = some image) (hdotless : code ≠ 0x131) (hlong : code ≠ 0x17F) :
    0x80 ≤ (Char.ofNat image).toNat ∧ Char.ofNat image ≠ 'ı' := by
  obtain ⟨hfirst, hlast, rfl⟩ := image?_eq_some h
  rcases upperRuns_range hrun with ⟨halone, hsingle⟩ | ⟨hlow, hrange, hvalid⟩
  · omega
  have htoNat : (Char.ofNat (run.target + (code - run.first))).toNat =
      run.target + (code - run.first) := by
    apply toNat_ofNat
    rcases hvalid with hvalid | hvalid
    · exact .inl (by omega)
    · exact .inr ⟨by omega, by omega⟩
  constructor
  · omega
  · intro hchar
    rw [hchar] at htoNat
    change 0x131 = _ at htoNat
    omega

theorem mem_upperExpansions {code : Nat} {codes : List Nat}
    (h : upperExpansions.lookup code = some codes) : (code, codes) ∈ upperExpansions := by
  obtain ⟨front, back, htable, -⟩ := List.lookup_eq_some_iff.mp h
  rw [htable]
  exact List.mem_append_right front List.mem_cons_self

/-- The capitals of a character. -/
theorem upperChar_cases (c : Char) :
    c.toNat < 0x80 ∧ upperChar c = [c.toUpper] ∨
      (∃ codes, (c.toNat, codes) ∈ upperExpansions ∧ upperChar c = codes.map Char.ofNat) ∨
      (c = 'ı' ∨ c = 'ſ') ∨
      ∃ d, upperChar c = [d] ∧ 0x80 ≤ d.toNat ∧ d ≠ 'ı' := by
  by_cases hspecial : c = 'ı' ∨ c = 'ſ'
  · exact .inr (.inr (.inl hspecial))
  by_cases hbasic : c.toNat < 0x80
  · exact .inl ⟨hbasic, if_pos hbasic⟩
  obtain ⟨hdotless, hlong⟩ := not_or.mp hspecial
  unfold upperChar
  rw [if_neg hbasic]
  cases hexpansion : upperExpansions.lookup c.toNat with
  | some codes => exact .inr (.inl ⟨codes, mem_upperExpansions hexpansion, rfl⟩)
  | none =>
    refine .inr (.inr (.inr ⟨_, rfl, ?_⟩))
    cases himage : upperRuns.findSome? fun run => run.image? c.toNat with
    | none => exact ⟨Nat.le_of_not_lt hbasic, hdotless⟩
    | some image =>
      obtain ⟨run, hrun, himage⟩ := List.exists_of_findSome?_eq_some himage
      apply beyond_basic_of_image? hrun himage
      · intro hcode
        exact hdotless (Char.toNat_inj.mp hcode)
      · intro hcode
        exact hlong (Char.toNat_inj.mp hcode)

/-- A character beyond the basic ones that no run leads to is the capital of nothing but itself. -/
theorem eq_of_upperChar {c d : Char} (hbeyond : 0x80 ≤ d.toNat)
    (hruns : ∀ run ∈ upperRuns,
      d.toNat < run.target ∨ run.target + (run.last - run.first) < d.toNat)
    (h : upperChar c = [d]) : c = d := by
  unfold upperChar at h
  split at h
  · next hbasic =>
    obtain rfl : c.toUpper = d := by simpa using h
    have hcapital : c.toUpper.toNat < 0x80 := by
      refine forall_basic hbasic ?_
      decide +kernel
    omega
  · split at h
    · next codes hexpansion =>
      have hall : (upperExpansions.all fun entry => decide (entry.2.length ≠ 1)) = true := by
        decide +kernel
      have hlength := congrArg List.length h
      rw [List.length_map] at hlength
      exact absurd hlength
        (by simpa using List.all_eq_true.mp hall _ (mem_upperExpansions hexpansion))
    · cases himage : upperRuns.findSome? fun run => run.image? c.toNat with
      | none => simpa [himage] using h
      | some image =>
        obtain rfl : Char.ofNat image = d := by simpa [himage] using h
        obtain ⟨run, hrun, hrange⟩ := List.exists_of_findSome?_eq_some himage
        obtain ⟨hfirst, hlast, hvalue⟩ := image?_eq_some hrange
        by_cases hvalid : image.isValidChar
        · have htoNat := toNat_ofNat hvalid
          have := hruns run hrun
          omega
        · have hzero : (Char.ofNat image).toNat = 0 := by
            rw [Char.ofNat, dif_neg hvalid]
            rfl
          omega

theorem upperChar_ne_nil (c : Char) : upperChar c ≠ [] := by
  rcases upperChar_cases c with
    ⟨-, hupper⟩ | ⟨codes, htable, hupper⟩ | hspecial | ⟨d, hupper, -⟩
  · simp [hupper]
  · have hall : (upperExpansions.all fun entry => !entry.2.isEmpty) = true := by
      decide +kernel
    rw [hupper]
    simpa using List.all_eq_true.mp hall _ htable
  · rcases hspecial with rfl | rfl <;> decide +kernel
  · simp [hupper]

theorem upper_eq_nil_iff {s : List Char} : upper s = [] ↔ s = [] := by
  cases s with
  | nil => simp
  | cons c s => simp [upperChar_ne_nil]

/-- A text with one character for its capitals is one character. -/
theorem exists_of_upper_singleton {s : List Char} {d : Char} (h : upper s = [d]) :
    ∃ c, s = [c] ∧ upperChar c = [d] := by
  cases s with
  | nil => cases h
  | cons c s =>
    rw [upper_cons, List.append_eq_singleton_iff] at h
    rcases h with ⟨hc, -⟩ | ⟨hc, hs⟩
    · exact absurd hc (upperChar_ne_nil c)
    · rw [upper_eq_nil_iff.mp hs]
      exact ⟨c, rfl, hc⟩

end RomanCalc.Text
