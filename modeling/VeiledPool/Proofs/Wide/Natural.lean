import Mathlib.Data.Nat.Sqrt
import VeiledPool.Proofs.Fault.Legible
import VeiledPool.Wide.Basic

/-! # Wide arithmetic on natural numbers

Reserves, amounts and shares are natural numbers, and on these each checked
expression has one of two answers: the exact result, or none because an operand
or the result is out of range. The lemmas give the exact result and say when it
exists. What is in range is legible.
-/

namespace VeiledPool

theorem amountMax_le_wideMax : amountMax ≤ wideMax := by
  decide +kernel

theorem amountMax_sq_le_wideMax : amountMax * amountMax ≤ wideMax := by
  decide +kernel

theorem three_amounts_le_wideMax : amountMax + amountMax + amountMax ≤ wideMax := by
  decide +kernel

theorem two_amounts_le_wideMax : amountMax + amountMax ≤ wideMax :=
  Nat.le_trans (Nat.le_add_right _ _) three_amounts_le_wideMax

theorem wideMax_lt_longestFigure : wideMax < Nat.pow 10 longestFigure := by
  decide +kernel

/-- Whatever is in the range of 256 bits can be written out. -/
theorem legible_of_le_wideMax {value : Nat} (small : value ≤ wideMax) : Legible value := by
  rw [legible_natCast_iff]
  exact lt_of_le_of_lt small wideMax_lt_longestFigure

theorem legible_of_le_amountMax {value : Nat} (small : value ≤ amountMax) : Legible value :=
  legible_of_le_wideMax (le_trans small amountMax_le_wideMax)

theorem floorSqrt_eq_sqrt (n : Nat) : floorSqrt n = Nat.sqrt n :=
  Nat.eq_sqrt.2 (floorSqrt_bounds n)

namespace Wide

variable {cause : Overflow} {value : Int} {a b c : Nat}

theorem require_eq_ok_iff {wide : Wide} : require cause wide = .ok value ↔ wide = some value := by
  cases wide <;> simp

theorem failsOnly_require {allowed : Fault → Prop} (overflows : ∀ cause, allowed (.overflow cause))
    {wide : Wide} (illegibles : Illegible cause.figures → allowed (.badValue .illegible)) :
    FailsOnly allowed (require cause wide) := by
  cases wide with
  | some value => exact failsOnly_ok value
  | none => exact failsOnly_raised (overflows cause) illegibles

theorem lift_natCast_eq_some_iff : lift (a : Int) = some value ↔ a ≤ wideMax ∧ value = a := by
  rw [lift_eq_some_iff]
  constructor <;> intro h <;> omega

theorem lift_of_le (small : a ≤ wideMax) : lift (a : Int) = some (a : Int) :=
  lift_natCast_eq_some_iff.2 ⟨small, rfl⟩

@[simp]
theorem sub_some (x y : Int) : sub (some x) (some y) = lift (x - y) := rfl

theorem both_eq_some_iff {operation : Int → Int → Wide} {left right : Wide} :
    both operation left right = some value ↔
      ∃ x y, left = some x ∧ right = some y ∧ operation x y = some value := by
  cases left <;> cases right <;> simp [both]

theorem add_lift_eq_some_iff :
    add (lift a) (lift b) = some value ↔ a + b ≤ wideMax ∧ value = (a + b : Nat) := by
  simp only [add, both_eq_some_iff, lift_natCast_eq_some_iff]
  constructor
  · rintro ⟨_, _, ⟨_, rfl⟩, ⟨_, rfl⟩, sum⟩
    exact lift_natCast_eq_some_iff.1 (by exact_mod_cast sum)
  · rintro ⟨small, rfl⟩
    exact ⟨a, b, ⟨by omega, rfl⟩, ⟨by omega, rfl⟩, by exact_mod_cast lift_of_le small⟩

theorem sub_lift_eq_some_iff :
    sub (lift a) (lift b) = some value ↔ a ≤ wideMax ∧ b ≤ a ∧ value = (a - b : Nat) := by
  simp only [sub, both_eq_some_iff, lift_natCast_eq_some_iff]
  constructor
  · rintro ⟨_, _, ⟨small, rfl⟩, ⟨_, rfl⟩, difference⟩
    obtain ⟨range, rfl⟩ := lift_eq_some_iff.1 difference
    exact ⟨small, by omega, by omega⟩
  · rintro ⟨small, enough, rfl⟩
    refine ⟨a, b, ⟨small, rfl⟩, ⟨by omega, rfl⟩, ?_⟩
    rw [← Int.ofNat_sub enough]
    exact lift_of_le (by omega)

theorem mul_lift_eq_some_iff :
    mul (lift a) (lift b) = some value ↔
      a ≤ wideMax ∧ b ≤ wideMax ∧ a * b ≤ wideMax ∧ value = (a * b : Nat) := by
  simp only [mul, both_eq_some_iff, lift_natCast_eq_some_iff]
  constructor
  · rintro ⟨_, _, ⟨smallA, rfl⟩, ⟨smallB, rfl⟩, product⟩
    exact ⟨smallA, smallB, lift_natCast_eq_some_iff.1 (by exact_mod_cast product)⟩
  · rintro ⟨smallA, smallB, small, rfl⟩
    exact ⟨a, b, ⟨smallA, rfl⟩, ⟨smallB, rfl⟩, by exact_mod_cast lift_of_le small⟩

theorem div_lift_eq_some_iff :
    div (lift a) (lift b) = some value ↔
      a ≤ wideMax ∧ (b ≤ wideMax ∧ b ≠ 0) ∧ value = (a / b : Nat) := by
  simp only [div, both_eq_some_iff, lift_natCast_eq_some_iff]
  constructor
  · intro ⟨_, _, ⟨smallA, dividend⟩, ⟨smallB, divisor⟩, quotient⟩
    subst dividend divisor
    by_cases zero : b = 0
    · simp [zero] at quotient
    · rw [if_neg (by exact_mod_cast zero), Option.some.injEq] at quotient
      exact ⟨smallA, ⟨smallB, zero⟩, by rw [Int.ofNat_fdiv, quotient]⟩
  · intro ⟨smallA, ⟨smallB, nonzero⟩, quotient⟩
    refine ⟨a, b, ⟨smallA, rfl⟩, ⟨smallB, rfl⟩, ?_⟩
    rw [if_neg (by exact_mod_cast nonzero), quotient, Int.ofNat_fdiv]

/-- The shape of every proportion: a product, divided and rounded down. -/
theorem mulDiv_lift_eq_some_iff :
    div (mul (lift a) (lift b)) (lift c) = some value ↔
      (a ≤ wideMax ∧ b ≤ wideMax ∧ a * b ≤ wideMax) ∧ (c ≤ wideMax ∧ c ≠ 0) ∧
        value = (a * b / c : Nat) := by
  simp only [div, both_eq_some_iff, mul_lift_eq_some_iff, lift_natCast_eq_some_iff]
  constructor
  · rintro ⟨_, _, ⟨smallA, smallB, small, rfl⟩, ⟨smallC, rfl⟩, quotient⟩
    by_cases zero : c = 0
    · simp [zero] at quotient
    · rw [if_neg (by exact_mod_cast zero), Option.some.injEq] at quotient
      exact ⟨⟨smallA, smallB, small⟩, ⟨smallC, zero⟩, by rw [Int.ofNat_fdiv, quotient]⟩
  · rintro ⟨⟨smallA, smallB, small⟩, ⟨smallC, nonzero⟩, rfl⟩
    refine ⟨_, _, ⟨smallA, smallB, small, rfl⟩, ⟨smallC, rfl⟩, ?_⟩
    rw [if_neg (by exact_mod_cast nonzero), Int.ofNat_fdiv]

theorem require_sub_lift (small : a ≤ wideMax) :
    require cause (sub (lift a) (lift b)) =
      if a < b then .error (Fault.overflow cause).raised else .ok (a - b : Nat) := by
  by_cases short : a < b
  · cases taken : sub (lift a) (lift b) with
    | none => simp [short]
    | some value =>
      obtain ⟨_, enough, _⟩ := sub_lift_eq_some_iff.1 taken
      exact absurd short (Nat.not_lt.2 enough)
  · rw [sub_lift_eq_some_iff.2 ⟨small, Nat.not_lt.1 short, rfl⟩, if_neg short, require_some]

end Wide

theorem failsOnly_narrow {allowed : Fault → Prop} (overflows : ∀ cause, allowed (.overflow cause))
    {quantity : String} {value : Int}
    (illegibles : ¬ Legible value → allowed (.badValue .illegible)) :
    FailsOnly allowed (narrow quantity value) := by
  unfold narrow
  split
  · exact failsOnly_ok _
  · exact failsOnly_raised (overflows _) fun illegible =>
      illegibles (by simpa [Fault.figures, Overflow.figures] using illegible)

theorem narrow_natCast_eq_ok_iff {quantity : String} {value result : Nat} :
    narrow quantity value = .ok result ↔ value ≤ amountMax ∧ result = value := by
  by_cases small : value ≤ amountMax
  · simp [narrow, small, eq_comm]
  · have outside : ¬ (value : Int) ≤ amountMax := by omega
    simp [narrow, small, outside]

theorem narrow_natCast {value : Nat} (legible : Legible value) (quantity : String) :
    narrow quantity value =
      if amountMax < value then .error (.overflow (.narrowing quantity value)) else .ok value := by
  by_cases large : amountMax < value
  · have outside : ¬ (value : Int) ≤ amountMax := by omega
    have shown : (Fault.overflow (.narrowing quantity value)).raised =
        .overflow (.narrowing quantity value) :=
      raised_of_not_illegible (by simpa [Fault.figures, Overflow.figures] using legible)
    simp [narrow, large, outside, shown]
  · rw [if_neg large]
    exact narrow_natCast_eq_ok_iff.2 ⟨Nat.not_lt.1 large, rfl⟩

end VeiledPool
