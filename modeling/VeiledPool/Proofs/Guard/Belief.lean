import Mathlib.Algebra.Order.Field.Rat
import Mathlib.Tactic.FieldSimp
import Mathlib.Tactic.Linarith
import VeiledPool.Proofs.Guard.Decision

/-! # What a believed price protects

An offer is held against what it should buy, which comes from the believed price
by two divisions. Both round down, so a fair output is never refused. What they
take off is less than one unit and as many as the offer has whole tokens, and the
comparison itself gives away one atom.
-/

namespace VeiledPool.SpreadBound

open Fixed (unit)

variable {offer returned commission spread gross : Nat} {price limit : Fixed}

theorem believed_mul_le (price : Fixed) (offer : Nat) :
    believed price offer * price.atomics ≤ offer * unit :=
  Fixed.scaled_mul_le offer unit price.atomics

/-- Less than a unit and one for every whole token of the offer is taken off what it is
    worth. -/
theorem lt_believed (positive : 0 < price.atomics) (offer : Nat) :
    (offer : ℚ) * unit / price.atomics - offer / unit - 1 < believed price offer := by
  have unitPos : (0 : ℚ) < unit := by exact_mod_cast Fixed.unit_pos
  have pricePos : (0 : ℚ) < price.atomics := by exact_mod_cast positive
  have rounded : (offer : ℚ) * unit * unit <
      ((believed price offer + 1) * unit + offer) * price.atomics := by
    exact_mod_cast Fixed.lt_scaled_mul offer unit positive
  rw [sub_sub, sub_lt_iff_lt_add, div_lt_iff₀ pricePos]
  refine lt_of_mul_lt_mul_right (a := (unit : ℚ)) ?_ unitPos.le
  calc (offer : ℚ) * unit * unit
      < ((believed price offer + 1) * unit + offer) * price.atomics := rounded
    _ = (believed price offer + (offer / unit + 1)) * price.atomics * unit := by
        field_simp
        ring

theorem believed_mul_le_of_fair (positive : 0 < price.atomics)
    (fair : (offer : ℤ) * (unit - limit.atomics) ≤ gross * price.atomics) :
    (believed price offer : ℤ) * (unit - limit.atomics) ≤ gross * unit := by
  have worth : (believed price offer : ℤ) * price.atomics ≤ offer * unit := by
    exact_mod_cast believed_mul_le price offer
  have pricePos : (0 : ℤ) < price.atomics := by exact_mod_cast positive
  have unitPos : (0 : ℤ) < unit := by exact_mod_cast Fixed.unit_pos
  rcases le_total (unit : ℤ) limit.atomics with loose | strict
  · -- A limit from the whole on asks for no output at all.
    have none : (believed price offer : ℤ) * (unit - limit.atomics) ≤ 0 :=
      mul_nonpos_of_nonneg_of_nonpos (Int.natCast_nonneg _) (by omega)
    exact none.trans (mul_nonneg (Int.natCast_nonneg _) unitPos.le)
  · refine le_of_mul_le_mul_right ?_ pricePos
    calc (believed price offer : ℤ) * (unit - limit.atomics) * price.atomics
        = believed price offer * price.atomics * (unit - limit.atomics) := by ring
      _ ≤ offer * unit * (unit - limit.atomics) :=
          mul_le_mul_of_nonneg_right worth (by omega)
      _ = offer * (unit - limit.atomics) * unit := by ring
      _ ≤ gross * price.atomics * unit := mul_le_mul_of_nonneg_right fair unitPos.le
      _ = gross * unit * price.atomics := by ring

theorem kept_of_fair {expected : Nat}
    (fair : (expected : ℤ) * (unit - limit.atomics) ≤ gross * unit) :
    expected ≤ gross ∨ (expected - gross) * unit < (limit.atomics + 1) * expected := by
  by_cases enough : expected ≤ gross
  · exact .inl enough
  · right
    zify [Nat.le_of_not_le enough]
    have positive : (0 : ℤ) < expected := by omega
    linarith

theorem mul_le_of_kept {expected : Nat}
    (kept : expected ≤ gross ∨ (expected - gross) * unit < (limit.atomics + 1) * expected) :
    (expected : ℚ) * (unit - limit.atomics - 1) ≤ gross * unit := by
  have split : expected * unit ≤ (expected - gross) * unit + gross * unit := by
    rw [← Nat.add_mul]
    exact Nat.mul_le_mul_right _ (by omega)
  have reached : expected * unit ≤ (limit.atomics + 1) * expected + gross * unit := by
    rcases kept with enough | within
    · have := Nat.mul_le_mul_right unit enough
      omega
    · omega
  have reached : (expected : ℚ) * unit ≤ (limit.atomics + 1) * expected + gross * unit := by
    exact_mod_cast reached
  linarith

theorem beliefPrice_eq_ok_iff (offerSmall : offer ≤ amountMax) (positive : 0 < price.atomics)
    (priceSmall : price.atomics ≤ wideMax) :
    (beliefPrice price limit).check offer returned commission spread = .ok () ↔
      believed price offer ≤ returned + commission ∨
        (believed price offer - (returned + commission)) * unit <
          (limit.atomics + 1) * believed price offer := by
  rw [check_beliefPrice offerSmall priceSmall, barring_beliefPrice]
  simp only [if_neg positive.ne']
  split
  · rename_i kept
    exact iff_of_true rfl kept
  · rename_i broken
    exact iff_of_false (by simp) broken

/-- A believed price never stands against a fair output, and what it lets pass is worth its
    while up to the roundings. -/
theorem belief_is_fair_and_protects (offerSmall : offer ≤ amountMax) (positive : 0 < price.atomics)
    (priceSmall : price.atomics ≤ wideMax) (limit : Fixed) (returned commission spread : Nat) :
    let gross := returned + commission
    let result := Request.checkSpread (some price) (some limit) .null (.int offer) (.int returned)
      (.int commission) (.int spread)
    ((offer : ℤ) * (unit - limit.atomics) ≤ gross * price.atomics → result = .ok ()) ∧
      (result = .ok () → limit.atomics < unit →
        ((offer : ℚ) * unit / price.atomics - offer / unit - 1) * (unit - limit.atomics - 1) ≤
          gross * unit) := by
  intro gross result
  have asked : result = (beliefPrice price limit).check offer returned commission spread :=
    Request.checkSpread_int (some price) (some limit) none
  rw [asked, beliefPrice_eq_ok_iff offerSmall positive priceSmall]
  constructor
  · intro fair
    exact kept_of_fair (believed_mul_le_of_fair positive fair)
  · intro kept strict
    have lessened : (0 : ℚ) ≤ unit - limit.atomics - 1 := by
      have : (limit.atomics : ℚ) + 1 ≤ unit := by exact_mod_cast strict
      linarith
    calc ((offer : ℚ) * unit / price.atomics - offer / unit - 1) * (unit - limit.atomics - 1)
        ≤ believed price offer * (unit - limit.atomics - 1) :=
          mul_le_mul_of_nonneg_right (lt_believed positive offer).le lessened
      _ ≤ gross * unit := mul_le_of_kept kept

/-- At a price of two, an output that misses its worth by just the hundredth allowed. -/
theorem belief_is_fair_and_protects_sample :
    let two : Fixed := ⟨2 * unit⟩
    let hundredth : Fixed := ⟨unit / 100⟩
    (1000 ≤ amountMax ∧ 0 < two.atomics ∧ two.atomics ≤ wideMax) ∧
      ((1000 : Nat) : ℤ) * (unit - hundredth.atomics) ≤ (490 + 5 : Nat) * two.atomics ∧
      hundredth.atomics < unit ∧
      Request.checkSpread (some two) (some hundredth) .null (.int 1000) (.int 490) (.int 5)
        (.int 0) = .ok () ∧
      (((1000 : Nat) : ℚ) * unit / two.atomics - (1000 : Nat) / unit - 1) *
        (unit - hundredth.atomics - 1) ≤ (490 + 5 : Nat) * unit := by
  intro two hundredth
  have native : 1000 ≤ amountMax ∧ 0 < two.atomics ∧ two.atomics ≤ wideMax := by decide +kernel
  have fair : ((1000 : Nat) : ℤ) * (unit - hundredth.atomics) ≤
      (490 + 5 : Nat) * two.atomics := by decide +kernel
  have strict : hundredth.atomics < unit := by decide +kernel
  obtain ⟨passes, protects⟩ :=
    belief_is_fair_and_protects native.1 native.2.1 native.2.2 hundredth 490 5 0
  exact ⟨native, fair, strict, passes fair, protects (passes fair) strict⟩

end VeiledPool.SpreadBound
