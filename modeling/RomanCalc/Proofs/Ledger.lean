import Mathlib.Data.List.DropRight
import Mathlib.Data.List.Forall2
import RomanCalc.Ledger

/-!
# The last entries

What a ledger forgets does not matter for what it keeps later (`lastOf_concat`), so it always
holds the last entries of all that were recorded.
-/

namespace RomanCalc.Ledger

variable {α β : Type}

/-- The last so many members of a list, where zero is no limit. -/
def recent (limit : Int) (items : List α) : List α :=
  if limit = 0 then items else items.rtake limit.toNat

theorem empty_eq_ok {limit : Int} {ledger : Ledger} (h : empty limit = .ok ledger) :
    ledger.toList = [] ∧
      ∀ {α : Type} (items : List α), lastOf ledger.limit items = recent limit items := by
  unfold empty at h
  split at h
  · cases h
  · split at h
    · cases h
    · cases h
      refine ⟨rfl, fun items => ?_⟩
      by_cases hzero : limit = 0
      · simp [recent, hzero, lastOf]
      · simp [recent, hzero, lastOf, List.rtake]

theorem empty_eq_error {limit : Int} {error : LimitError} (hlimit : 0 ≤ limit)
    (h : empty limit = .error error) : error = .tooLarge ∧ (countable : Int) < limit := by
  have hcountable : (0 : Int) ≤ countable := Int.natCast_nonneg _
  unfold empty at h
  split at h
  · cases h
    exact ⟨rfl, by omega⟩
  · split at h
    · omega
    · cases h

@[simp] theorem lastOf_nil (limit : Option Nat) : lastOf limit ([] : List α) = [] := by
  cases limit <;> simp [lastOf]

/-- What was forgotten before is not among the last members. -/
theorem lastOf_concat (limit : Option Nat) (items : List α) (item : α) :
    lastOf limit (lastOf limit items ++ [item]) = lastOf limit (items ++ [item]) := by
  cases limit with
  | none => rfl
  | some n =>
    change (items.rtake n ++ [item]).rtake n = (items ++ [item]).rtake n
    cases n with
    | zero => rw [List.rtake_zero, List.rtake_zero]
    | succ n =>
      rw [List.rtake_concat_succ, List.rtake_concat_succ]
      congr 1
      unfold List.rtake
      rw [List.drop_drop, List.length_drop]
      congr 1
      omega

theorem forall₂_lastOf {R : α → β → Prop} (limit : Option Nat) {xs : List α} {ys : List β}
    (h : List.Forall₂ R xs ys) : List.Forall₂ R (lastOf limit xs) (lastOf limit ys) := by
  cases limit with
  | none => exact h
  | some n =>
    unfold lastOf
    rw [h.length_eq]
    exact List.forall₂_drop _ h

end RomanCalc.Ledger
