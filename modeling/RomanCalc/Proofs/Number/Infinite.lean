import RomanCalc.Proofs.Number.Rounding

/-!
# Operations on doubles that are not finite

A sum, a difference or a product with an operand that is not finite is not finite either
(`isFinite_add`, `isFinite_sub`, `isFinite_mul`). A quotient with such an operand is finite only
where the divisor is an infinity and what is divided is finite (`isFinite_div`).
-/

namespace RomanCalc.Number

open Float.Model Float.Model.UnpackedFloat

section

variable {u v : UnpackedFloat}

/-- What is not finite stays so when it is stored. -/
theorem isFinite_unpack_pack (h : u.isFinite = false) :
    (UnpackedFloat.unpack .binary64 (UnpackedFloat.pack .binary64 u)).isFinite = false := by
  cases u with
  | notANumber => rfl
  | infinity s => cases s <;> rfl
  | zero s => cases h
  | finite s m e hm => cases h

theorem isFinite_add_unpacked (h : (u.isFinite && v.isFinite) = false) :
    (UnpackedFloat.add .binary64 u v).isFinite = false := by
  cases u with
  | notANumber => cases v <;> rfl
  | infinity s =>
    cases v with
    | infinity t => cases s <;> cases t <;> rfl
    | _ => rfl
  | zero s =>
    cases v with
    | notANumber => rfl
    | infinity t => rfl
    | _ => cases h
  | finite s m e hm =>
    cases v with
    | notANumber => rfl
    | infinity t => rfl
    | _ => cases h

theorem isFinite_mul_unpacked (h : (u.isFinite && v.isFinite) = false) :
    (UnpackedFloat.mul .binary64 u v).isFinite = false := by
  cases u <;> cases v <;> first | rfl | cases h

/-- What is finite and divided by an infinity is zero, and all other quotients are infinite or no
numbers. -/
theorem div_cases (h : (u.isFinite && v.isFinite) = false) :
    (u.isFinite && v.isInf) = true ∧ (∃ s, UnpackedFloat.div .binary64 u v = .zero s) ∨
      (u.isFinite && v.isInf) = false ∧ (UnpackedFloat.div .binary64 u v).isFinite = false := by
  cases u with
  | notANumber => exact .inr ⟨rfl, by cases v <;> rfl⟩
  | infinity s => exact .inr ⟨rfl, by cases v <;> rfl⟩
  | zero s =>
    cases v with
    | notANumber => exact .inr ⟨rfl, rfl⟩
    | infinity t => exact .inl ⟨rfl, _, rfl⟩
    | _ => cases h
  | finite s m e hm =>
    cases v with
    | notANumber => exact .inr ⟨rfl, rfl⟩
    | infinity t => exact .inl ⟨rfl, _, rfl⟩
    | _ => cases h

end

variable {x y : Float}

theorem isFinite_add (h : (x.isFinite && y.isFinite) = false) : (x + y).isFinite = false :=
  isFinite_unpack_pack (isFinite_add_unpacked h)

theorem isFinite_sub (h : (x.isFinite && y.isFinite) = false) : (x - y).isFinite = false := by
  refine isFinite_unpack_pack ?_
  rw [sub_eq_add]
  refine isFinite_add_unpacked ?_
  rwa [isFinite_neg_unpacked]

theorem isFinite_mul (h : (x.isFinite && y.isFinite) = false) : (x * y).isFinite = false :=
  isFinite_unpack_pack (isFinite_mul_unpacked h)

theorem isFinite_div (h : (x.isFinite && y.isFinite) = false) :
    (x / y).isFinite = (x.isFinite && y.isInf) := by
  have hdiv : (x / y).isFinite = (UnpackedFloat.unpack .binary64 (UnpackedFloat.pack .binary64
      (UnpackedFloat.div .binary64 x.toModel.unpack y.toModel.unpack))).isFinite := rfl
  rcases div_cases h with ⟨hzero, s, hs⟩ | ⟨hnot, hdivided⟩
  · have hquotient : (x.isFinite && y.isInf) = true := hzero
    rw [hquotient, hdiv, hs]
    cases s <;> rfl
  · have hquotient : (x.isFinite && y.isInf) = false := hnot
    rw [hquotient, hdiv, isFinite_unpack_pack hdivided]

/-- No infinity is zero. -/
theorem beq_zero_of_isInf (h : y.isInf = true) : (y == 0.0) = false := by
  have hinf : y.toModel.unpack.isInf = true := h
  have hbeq : (y == 0.0) = UnpackedFloat.beq y.toModel.unpack (.zero .positive) := rfl
  rw [hbeq]
  cases hy : y.toModel.unpack with
  | infinity s => cases s <;> rfl
  | _ =>
    rw [hy] at hinf
    cases hinf

end RomanCalc.Number
