import Mathlib.Algebra.Order.Floor.Div
import Mathlib.Tactic.Ring
import VeiledPool.Fixed.Arith
import VeiledPool.Proofs.Wide.Natural

/-! # Ratios of natural numbers

The operations on ratios answer with the exact result rounded down, and they do
so wherever the operands and the product before the division fit 256 bits.
-/

namespace VeiledPool.Fixed

variable {a ratio : Fixed} {numerator denominator amount : Nat} {value : Int}

theorem unit_pos : 0 < unit := by decide

theorem unit_sq_le_wideMax : unit * unit ≤ wideMax := by
  decide +kernel

theorem unit_le_wideMax : unit ≤ wideMax :=
  Nat.le_trans (Nat.le_mul_of_pos_left unit unit_pos) unit_sq_le_wideMax

theorem amountMax_mul_unit_sq_le : amountMax * (unit * unit) ≤ wideMax := by
  decide +kernel

theorem mul_unit_mul_unit_le (small : amount ≤ amountMax) : amount * unit * unit ≤ wideMax := by
  rw [Nat.mul_assoc]
  exact Nat.le_trans (Nat.mul_le_mul_right _ small) amountMax_mul_unit_sq_le

theorem mul_unit_le (small : amount ≤ amountMax) : amount * unit ≤ wideMax :=
  Nat.le_trans (Nat.le_mul_of_pos_right _ unit_pos) (mul_unit_mul_unit_le small)

theorem ofRatio_eq_ok_iff :
    ofRatio numerator denominator = .ok ratio ↔
      (denominator ≠ 0 ∧ denominator ≤ wideMax) ∧ numerator * unit ≤ wideMax ∧
        ratio = ⟨numerator * unit / denominator⟩ := by
  by_cases zero : denominator = 0
  · simp [ofRatio, zero]
  have nonzero : (denominator : Int) ≠ 0 := by exact_mod_cast zero
  have below : numerator ≤ numerator * unit := Nat.le_mul_of_pos_right _ unit_pos
  simp only [ofRatio, nonzero, if_false, bind_eq_ok, Wide.require_eq_ok_iff,
    Wide.mulDiv_lift_eq_some_iff, pure_eq_ok]
  constructor
  · intro ⟨_, ⟨⟨_, _, product⟩, ⟨small, _⟩, quotient⟩, made⟩
    subst quotient
    exact ⟨⟨zero, small⟩, product, made.symm⟩
  · intro ⟨⟨_, small⟩, product, made⟩
    exact ⟨_, ⟨⟨Nat.le_trans below product, unit_le_wideMax, product⟩, ⟨small, zero⟩, rfl⟩,
      made.symm⟩

theorem times_eq_ok_iff {b : Fixed} :
    a.times b = .ok ratio ↔
      (a.atomics ≤ wideMax ∧ b.atomics ≤ wideMax ∧ a.atomics * b.atomics ≤ wideMax) ∧
        ratio = ⟨a.atomics * b.atomics / unit⟩ := by
  simp only [times, bind_eq_ok, Wide.require_eq_ok_iff, Wide.mulDiv_lift_eq_some_iff, pure_eq_ok]
  constructor
  · rintro ⟨_, ⟨range, -, rfl⟩, made⟩
    exact ⟨range, made.symm⟩
  · rintro ⟨range, made⟩
    exact ⟨_, ⟨range, ⟨unit_le_wideMax, Nat.ne_of_gt unit_pos⟩, rfl⟩, made.symm⟩

theorem minus_eq_ok_iff {b : Fixed} :
    a.minus b = .ok ratio ↔
      a.atomics ≤ wideMax ∧ b.atomics ≤ a.atomics ∧ ratio = ⟨a.atomics - b.atomics⟩ := by
  simp only [minus, bind_eq_ok, Wide.require_eq_ok_iff, Wide.sub_lift_eq_some_iff, pure_eq_ok]
  constructor
  · rintro ⟨_, ⟨small, enough, rfl⟩, made⟩
    exact ⟨small, enough, made.symm⟩
  · rintro ⟨small, enough, made⟩
    exact ⟨_, ⟨small, enough, rfl⟩, made.symm⟩

theorem one_minus (tolerance : Fixed) :
    one.minus tolerance =
      if unit < tolerance.atomics then
        .error (Fault.overflow (.ratioDifference one tolerance)).raised
      else .ok ⟨unit - tolerance.atomics⟩ := by
  have lessened : Wide.require (.ratioDifference one tolerance)
      (Wide.sub (Wide.lift one.atomics) (Wide.lift tolerance.atomics)) =
        if unit < tolerance.atomics then
          .error (Fault.overflow (.ratioDifference one tolerance)).raised
        else .ok (unit - tolerance.atomics : Nat) := Wide.require_sub_lift unit_le_wideMax
  rw [minus, lessened]
  split <;> rfl

theorem reciprocal_eq_ok_iff :
    a.reciprocal = .ok ratio ↔
      (a.atomics ≠ 0 ∧ a.atomics ≤ wideMax) ∧ ratio = ⟨unit * unit / a.atomics⟩ := by
  by_cases zero : a.atomics = 0
  · simp [reciprocal, zero]
  simp only [reciprocal, zero, if_false, bind_eq_ok, Wide.require_eq_ok_iff,
    Wide.div_lift_eq_some_iff, pure_eq_ok]
  constructor
  · intro ⟨_, ⟨_, ⟨small, _⟩, quotient⟩, made⟩
    subst quotient
    exact ⟨⟨zero, small⟩, made.symm⟩
  · intro ⟨⟨_, small⟩, made⟩
    exact ⟨_, ⟨unit_sq_le_wideMax, ⟨small, zero⟩, rfl⟩, made.symm⟩

theorem scale_eq_ok_iff :
    a.scale amount = .ok value ↔
      (amount ≤ wideMax ∧ a.atomics ≤ wideMax ∧ amount * a.atomics ≤ wideMax) ∧
        value = (amount * a.atomics / unit : Nat) := by
  rw [scale, Wide.require_eq_ok_iff, Wide.mulDiv_lift_eq_some_iff]
  simp [unit_le_wideMax, Nat.ne_of_gt unit_pos]

theorem legible_whole (small : a.atomics ≤ wideMax) : Legible a.whole :=
  legible_of_le_wideMax (le_trans (Nat.div_le_self _ _) small)

theorem scale_natCast (amountSmall : amount ≤ wideMax) (atomicsSmall : a.atomics ≤ wideMax) :
    a.scale amount =
      if wideMax < amount * a.atomics then .error (.overflow (.scaledAmount amount a))
      else .ok (amount * a.atomics / unit : Nat) := by
  have shown : (Fault.overflow (.scaledAmount amount a)).raised = .overflow (.scaledAmount amount a) :=
    raised_of_not_illegible (by
      simpa [Fault.figures, Overflow.figures] using
        ⟨legible_of_le_wideMax amountSmall, legible_whole atomicsSmall⟩)
  by_cases large : wideMax < amount * a.atomics
  · rw [if_pos large, scale, ← shown]
    cases multiplied : Wide.div (Wide.mul (Wide.lift amount) (Wide.lift a.atomics))
        (Wide.lift unit) with
    | none => rfl
    | some value =>
      obtain ⟨⟨-, -, within⟩, -⟩ := Wide.mulDiv_lift_eq_some_iff.1 multiplied
      exact absurd within (Nat.not_le.2 large)
  · rw [if_neg large]
    exact scale_eq_ok_iff.2 ⟨⟨amountSmall, atomicsSmall, Nat.not_lt.1 large⟩, rfl⟩

/-! ## Two divisions in a row

A factor is multiplied by a ratio that was rounded down, and the product is rounded
down again.
-/

theorem scaled_mul_le (factor numerator denominator : Nat) :
    factor * (numerator * unit / denominator) / unit * denominator ≤ factor * numerator := by
  have scaled : factor * (numerator * unit / denominator) / unit * unit ≤
      factor * (numerator * unit / denominator) := Nat.div_mul_le_self _ _
  have rounded : numerator * unit / denominator * denominator ≤ numerator * unit :=
    Nat.div_mul_le_self _ _
  generalize numerator * unit / denominator = ratio at *
  generalize factor * ratio / unit = product at *
  refine Nat.le_of_mul_le_mul_right ?_ unit_pos
  calc product * denominator * unit
      = product * unit * denominator := Nat.mul_right_comm ..
    _ ≤ factor * ratio * denominator := Nat.mul_le_mul_right _ scaled
    _ = factor * (ratio * denominator) := Nat.mul_assoc ..
    _ ≤ factor * (numerator * unit) := Nat.mul_le_mul_left _ rounded
    _ = factor * numerator * unit := (Nat.mul_assoc ..).symm

/-- The second division takes off less than one, the first less than an atom for each unit of
    the factor. -/
theorem lt_scaled_mul (factor numerator : Nat) {denominator : Nat} (positive : 0 < denominator) :
    factor * numerator * unit <
      ((factor * (numerator * unit / denominator) / unit + 1) * unit + factor) * denominator := by
  have scaled : factor * (numerator * unit / denominator) <
      unit * (factor * (numerator * unit / denominator) / unit + 1) :=
    Nat.lt_mul_div_succ _ unit_pos
  have rounded : numerator * unit < denominator * (numerator * unit / denominator + 1) :=
    Nat.lt_mul_div_succ _ positive
  generalize numerator * unit / denominator = ratio at *
  generalize factor * ratio / unit = product at *
  calc factor * numerator * unit
      = factor * (numerator * unit) := Nat.mul_assoc ..
    _ ≤ factor * (denominator * (ratio + 1)) := Nat.mul_le_mul_left _ rounded.le
    _ = (factor * ratio + factor) * denominator := by ring
    _ < (unit * (product + 1) + factor) * denominator :=
        Nat.mul_lt_mul_of_pos_right (Nat.add_lt_add_right scaled _) positive
    _ = ((product + 1) * unit + factor) * denominator := by rw [Nat.mul_comm unit]

theorem scaled_le (factor numerator : Nat) {denominator : Nat} (positive : 0 < denominator) :
    factor * (numerator * unit / denominator) / unit ≤ factor * numerator / denominator :=
  (Nat.le_div_iff_mul_le positive).2 (scaled_mul_le factor numerator denominator)

/-- Against a single division the loss is an atom for each unit of the factor, rounded up. -/
theorem le_scaled_add (factor numerator : Nat) {denominator : Nat} (positive : 0 < denominator) :
    factor * numerator / denominator ≤
      factor * (numerator * unit / denominator) / unit + factor ⌈/⌉ unit := by
  have lost := lt_scaled_mul factor numerator positive
  have covered : factor ≤ unit * (factor ⌈/⌉ unit) := le_smul_ceilDiv unit_pos
  generalize factor * (numerator * unit / denominator) / unit = product at *
  generalize factor ⌈/⌉ unit = atoms at *
  rw [← Nat.lt_succ_iff, Nat.div_lt_iff_lt_mul positive]
  refine Nat.lt_of_mul_lt_mul_right (a := unit) ?_
  calc factor * numerator * unit
      < ((product + 1) * unit + factor) * denominator := lost
    _ ≤ ((product + 1) * unit + unit * atoms) * denominator :=
        Nat.mul_le_mul_right _ (Nat.add_le_add_left covered _)
    _ = (product + atoms).succ * denominator * unit := by rw [Nat.succ_eq_add_one]; ring

end VeiledPool.Fixed
