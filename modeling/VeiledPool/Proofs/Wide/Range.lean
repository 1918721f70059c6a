import Mathlib.Data.Int.Sqrt
import Mathlib.Data.Rat.Floor
import VeiledPool.Proofs.Wide.Natural

/-! # Ranges of wide results

Quotients and roots are not checked, but what is rounded down or up lies between
zero and what was divided, and that was checked. So every result that is there is in
range, and can be written out.
-/

namespace VeiledPool.Wide

def InRange (value : Int) : Prop :=
  0 ≤ value ∧ value ≤ wideMax

instance (value : Int) : Decidable (InRange value) := inferInstanceAs (Decidable (_ ∧ _))

theorem InRange.legible {value : Int} (inRange : InRange value) : Legible value := by
  obtain ⟨n, rfl⟩ := Int.eq_ofNat_of_zero_le inRange.1
  have small := inRange.2
  exact legible_of_le_wideMax (by exact_mod_cast small)

section Rounding

variable {a b : Int}

theorem fdiv_eq_floor (a : Int) (divisor : InRange b) : a.fdiv b = ⌊(a : ℚ) / b⌋ := by
  rw [Int.fdiv_eq_ediv_of_nonneg a divisor.1]
  obtain ⟨n, rfl⟩ := Int.eq_ofNat_of_zero_le divisor.1
  exact (Rat.floor_intCast_div_natCast a n).symm

theorem neg_fdiv_neg_eq_ceil (a : Int) (divisor : InRange b) :
    -(-a).fdiv b = ⌈(a : ℚ) / b⌉ := by
  rw [fdiv_eq_floor (-a) divisor, Int.cast_neg, neg_div, Int.floor_neg, neg_neg]

theorem quotient_le (dividend : InRange a) (divisor : InRange b) (nonzero : b ≠ 0) :
    0 ≤ (a : ℚ) / b ∧ (a : ℚ) / b ≤ a := by
  have one : (1 : ℚ) ≤ b := by
    have := divisor.1
    exact_mod_cast (by omega : 1 ≤ b)
  have positive : (0 : ℚ) ≤ a := by exact_mod_cast dividend.1
  exact ⟨div_nonneg positive (by linarith), div_le_self positive one⟩

theorem inRange_floor (dividend : InRange a) (divisor : InRange b) (nonzero : b ≠ 0) :
    InRange ⌊(a : ℚ) / b⌋ := by
  obtain ⟨positive, le⟩ := quotient_le dividend divisor nonzero
  have small : ⌊(a : ℚ) / b⌋ ≤ a := Int.floor_le_iff.2 (by linarith)
  exact ⟨Int.floor_nonneg.2 positive, small.trans dividend.2⟩

theorem inRange_ceil (dividend : InRange a) (divisor : InRange b) (nonzero : b ≠ 0) :
    InRange ⌈(a : ℚ) / b⌉ := by
  obtain ⟨positive, le⟩ := quotient_le dividend divisor nonzero
  exact ⟨Int.ceil_nonneg positive, (Int.ceil_le.2 le).trans dividend.2⟩

theorem inRange_sqrt (operand : InRange a) : InRange (Int.sqrt a) := by
  obtain ⟨n, rfl⟩ := Int.eq_ofNat_of_zero_le operand.1
  have small := Nat.sqrt_le_self n
  have := operand.2
  exact ⟨Int.sqrt_nonneg _, by simp only [Int.sqrt_natCast]; omega⟩

end Rounding

/-- What a computation gives, if anything, is in range. -/
def Confined (wide : Wide) : Prop :=
  ∀ value, wide = some value → InRange value

section Confined

variable {left right wide : Wide} {value : Int} {cause : Overflow}

theorem confined_lift (value : Int) : Confined (lift value) := by
  intro result lifted
  obtain ⟨range, rfl⟩ := lift_eq_some_iff.1 lifted
  exact range

theorem confined_both {operation : Int → Int → Wide}
    (results : ∀ a b, left = some a → right = some b → Confined (operation a b)) :
    Confined (both operation left right) := by
  intro value computed
  obtain ⟨a, b, present, other, result⟩ := both_eq_some_iff.1 computed
  exact results a b present other value result

theorem confined_sub (left right : Wide) : Confined (sub left right) :=
  confined_both fun _ _ _ _ => confined_lift _

theorem confined_mul (left right : Wide) : Confined (mul left right) :=
  confined_both fun _ _ _ _ => confined_lift _

theorem confined_div (dividend : Confined left) (divisor : Confined right) :
    Confined (div left right) := by
  refine confined_both fun a b present other value quotient => ?_
  have inLeft := dividend a present
  have inRight := divisor b other
  split at quotient
  · cases quotient
  · rename_i nonzero
    cases quotient
    rw [fdiv_eq_floor a inRight]
    exact inRange_floor inLeft inRight nonzero

theorem confined_root (operand : Confined wide) : Confined (root wide) := by
  intro value computed
  obtain ⟨a, present, rfl⟩ := Option.map_eq_some_iff.1 computed
  rw [floorSqrt_eq_sqrt]
  exact inRange_sqrt (operand a present)

theorem InRange.of_require (confined : Confined wide) (answered : require cause wide = .ok value) :
    InRange value :=
  confined value (require_eq_ok_iff.1 answered)

theorem InRange.of_proportion {a b c : Int}
    (answered : require cause (div (mul (lift a) (lift b)) (lift c)) = .ok value) :
    InRange value :=
  .of_require (confined_div (confined_mul _ _) (confined_lift _)) answered

theorem InRange.failsOnly_narrow {allowed : Fault → Prop} {quantity : String}
    (inRange : InRange value) (overflows : ∀ cause, allowed (.overflow cause)) :
    FailsOnly allowed (narrow quantity value) :=
  VeiledPool.failsOnly_narrow overflows fun long => absurd inRange.legible long

end Confined

end VeiledPool.Wide
