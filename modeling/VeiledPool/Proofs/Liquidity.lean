import Mathlib.Tactic.Ring
import VeiledPool.Liquidity
import VeiledPool.Proofs.Wide.Range

/-! # What deposits mint and withdrawals pay

The three share computations are exact where their intermediate results exist:
a square root, the smaller of two proportions, and a proportion, each rounded
down.
-/

namespace VeiledPool.Liquidity

variable {deposit0 deposit1 pool0 pool1 totalShare reserve burned result : Nat} {side : Side}
  {value : Int}

theorem initialShares_eq_ok_iff :
    initialShares deposit0 deposit1 = .ok result ↔
      (deposit0 ≤ wideMax ∧ deposit1 ≤ wideMax ∧ deposit0 * deposit1 ≤ wideMax) ∧
        floorSqrt (deposit0 * deposit1) ≤ amountMax ∧
        result = floorSqrt (deposit0 * deposit1) := by
  simp only [initialShares, bind_eq_ok, Wide.require_eq_ok_iff, Wide.root, Option.map_eq_some_iff,
    Wide.mul_lift_eq_some_iff]
  constructor
  · rintro ⟨_, ⟨_, ⟨small0, small1, product, rfl⟩, rfl⟩, narrowed⟩
    obtain ⟨small, rfl⟩ := narrow_natCast_eq_ok_iff.1 narrowed
    exact ⟨⟨small0, small1, product⟩, small, rfl⟩
  · rintro ⟨⟨small0, small1, product⟩, small, rfl⟩
    exact ⟨_, ⟨_, ⟨small0, small1, product, rfl⟩, rfl⟩, narrow_natCast_eq_ok_iff.2 ⟨small, rfl⟩⟩

theorem proRata_eq_ok_iff {deposit pool : Nat} :
    proRata side deposit totalShare pool = .ok value ↔
      (deposit ≤ wideMax ∧ totalShare ≤ wideMax ∧ deposit * totalShare ≤ wideMax) ∧
        (pool ≤ wideMax ∧ pool ≠ 0) ∧ value = (deposit * totalShare / pool : Nat) := by
  rw [proRata, Wide.require_eq_ok_iff, Wide.mulDiv_lift_eq_some_iff]

theorem min_natCast (a b : Nat) : min (a : Int) b = (min a b : Nat) := by
  omega

theorem additionalShares_eq_ok_iff :
    additionalShares deposit0 deposit1 pool0 pool1 totalShare = .ok result ↔
      (deposit0 ≤ wideMax ∧ totalShare ≤ wideMax ∧ deposit0 * totalShare ≤ wideMax) ∧
        (pool0 ≤ wideMax ∧ pool0 ≠ 0) ∧
        (deposit1 ≤ wideMax ∧ deposit1 * totalShare ≤ wideMax) ∧
        (pool1 ≤ wideMax ∧ pool1 ≠ 0) ∧
        min (deposit0 * totalShare / pool0) (deposit1 * totalShare / pool1) ≤ amountMax ∧
        result = min (deposit0 * totalShare / pool0) (deposit1 * totalShare / pool1) := by
  by_cases empty : pool0 = 0 ∨ pool1 = 0
  · simp only [additionalShares, empty, if_true, reduceCtorEq, false_iff]
    rintro ⟨-, ⟨-, funded0⟩, -, ⟨-, funded1⟩, -⟩
    omega
  simp only [additionalShares, empty, if_false, bind_eq_ok, proRata_eq_ok_iff]
  constructor
  · rintro ⟨_, ⟨range0, pooled0, rfl⟩, _, ⟨⟨small1, -, product1⟩, pooled1, rfl⟩, narrowed⟩
    rw [min_natCast] at narrowed
    obtain ⟨small, rfl⟩ := narrow_natCast_eq_ok_iff.1 narrowed
    exact ⟨range0, pooled0, ⟨small1, product1⟩, pooled1, small, rfl⟩
  · rintro ⟨range0, pooled0, ⟨small1, product1⟩, pooled1, small, rfl⟩
    refine ⟨_, ⟨range0, pooled0, rfl⟩, _, ⟨⟨small1, range0.2.1, product1⟩, pooled1, rfl⟩, ?_⟩
    rw [min_natCast]
    exact narrow_natCast_eq_ok_iff.2 ⟨small, rfl⟩

theorem withdrawal_eq_ok_iff :
    withdrawal reserve burned totalShare = .ok result ↔
      (reserve ≤ wideMax ∧ burned ≤ wideMax ∧ reserve * burned ≤ wideMax) ∧
        (totalShare ≤ wideMax ∧ totalShare ≠ 0) ∧
        reserve * burned / totalShare ≤ amountMax ∧
        result = reserve * burned / totalShare := by
  by_cases none : totalShare = 0
  · simp [withdrawal, none]
  simp only [withdrawal, none, if_false, bind_eq_ok, Wide.require_eq_ok_iff,
    Wide.mulDiv_lift_eq_some_iff]
  constructor
  · rintro ⟨_, ⟨range, pooled, rfl⟩, narrowed⟩
    obtain ⟨small, rfl⟩ := narrow_natCast_eq_ok_iff.1 narrowed
    exact ⟨range, pooled, small, rfl⟩
  · rintro ⟨range, pooled, small, rfl⟩
    exact ⟨_, ⟨range, pooled, rfl⟩, narrow_natCast_eq_ok_iff.2 ⟨small, rfl⟩⟩

theorem refund_le (part : burned ≤ totalShare) : reserve * burned / totalShare ≤ reserve := by
  apply Nat.div_le_of_le_mul
  rw [Nat.mul_comm]
  exact Nat.mul_le_mul_right reserve part

theorem withdrawal_of_native (held : reserve ≤ amountMax) (issued : totalShare ≤ amountMax)
    (supplied : 0 < totalShare) (part : burned ≤ totalShare) :
    withdrawal reserve burned totalShare = .ok (reserve * burned / totalShare) := by
  have wide := amountMax_le_wideMax
  have product : reserve * burned ≤ wideMax :=
    Nat.le_trans (Nat.mul_le_mul held (Nat.le_trans part issued)) amountMax_sq_le_wideMax
  have within : reserve * burned / totalShare ≤ reserve := refund_le part
  exact withdrawal_eq_ok_iff.2 ⟨⟨by omega, by omega, product⟩, ⟨by omega, by omega⟩, by omega, rfl⟩

/-! ## Refusals -/

section
variable {allowed : Fault → Prop} (overflows : ∀ cause, allowed (.overflow cause))
include overflows

theorem failsOnly_initialShares
    (illegibles : Illegible [deposit0, deposit1] → allowed (.badValue .illegible)) :
    FailsOnly allowed (initialShares deposit0 deposit1) := by
  unfold initialShares
  refine failsOnly_bind_of_ok (Wide.failsOnly_require overflows illegibles) fun shares given => ?_
  have inRange := Wide.InRange.of_require (Wide.confined_root (Wide.confined_mul _ _)) given
  exact inRange.failsOnly_narrow overflows

theorem failsOnly_proRata {deposit pool : Nat}
    (illegibles : Illegible [deposit, totalShare, pool] → allowed (.badValue .illegible)) :
    FailsOnly allowed (proRata side deposit totalShare pool) := by
  unfold proRata
  exact Wide.failsOnly_require overflows illegibles

theorem failsOnly_additionalShares
    (empties : pool0 = 0 ∨ pool1 = 0 → ∀ cause, allowed (.degenerate cause))
    (illegibles : Illegible [deposit0, deposit1, pool0, pool1, totalShare] →
      allowed (.badValue .illegible)) :
    FailsOnly allowed (additionalShares deposit0 deposit1 pool0 pool1 totalShare) := by
  unfold additionalShares
  split
  · rename_i empty
    exact failsOnly_raised (empties empty _) fun long => illegibles
      (long.of_covered (by simp [Fault.figures, Degeneracy.figures]))
  · refine failsOnly_bind_of_ok (failsOnly_proRata overflows fun long => illegibles
        (long.of_covered (by simp))) fun share0 given0 => ?_
    refine failsOnly_bind_of_ok (failsOnly_proRata overflows fun long => illegibles
        (long.of_covered (by simp))) fun share1 given1 => ?_
    have inRange0 := Wide.InRange.of_proportion given0
    have inRange1 := Wide.InRange.of_proportion given1
    have inRange : Wide.InRange (min share0 share1) :=
      ⟨le_min inRange0.1 inRange1.1, (min_le_left _ _).trans inRange0.2⟩
    exact inRange.failsOnly_narrow overflows

theorem failsOnly_withdrawal (empties : totalShare = 0 → ∀ cause, allowed (.degenerate cause))
    (illegibles : Illegible [reserve, burned, totalShare] → allowed (.badValue .illegible)) :
    FailsOnly allowed (withdrawal reserve burned totalShare) := by
  unfold withdrawal
  split
  · rename_i none
    exact failsOnly_error (empties none _)
  · refine failsOnly_bind_of_ok (Wide.failsOnly_require overflows illegibles) fun amount given => ?_
    exact (Wide.InRange.of_proportion given).failsOnly_narrow overflows

end

/-! ## Rounding in the pool's favour -/

theorem sq_le_of_initialShares (minted : initialShares deposit0 deposit1 = .ok result) :
    result * result ≤ deposit0 * deposit1 := by
  obtain ⟨-, -, rfl⟩ := initialShares_eq_ok_iff.1 minted
  exact floorSqrt_sq_le _

theorem mul_le_of_additionalShares
    (minted : additionalShares deposit0 deposit1 pool0 pool1 totalShare = .ok result)
    (side : Side) :
    result * side.of (pool0, pool1) ≤ side.of (deposit0, deposit1) * totalShare := by
  obtain ⟨-, -, -, -, -, rfl⟩ := additionalShares_eq_ok_iff.1 minted
  cases side with
  | first =>
    exact Nat.le_trans (Nat.mul_le_mul_right _ (Nat.min_le_left _ _)) (Nat.div_mul_le_self _ _)
  | second =>
    exact Nat.le_trans (Nat.mul_le_mul_right _ (Nat.min_le_right _ _)) (Nat.div_mul_le_self _ _)

theorem pools_pos_of_additionalShares
    (minted : additionalShares deposit0 deposit1 pool0 pool1 totalShare = .ok result) :
    0 < pool0 ∧ 0 < pool1 := by
  obtain ⟨-, ⟨-, funded0⟩, -, ⟨-, funded1⟩, -⟩ := additionalShares_eq_ok_iff.1 minted
  exact ⟨Nat.pos_of_ne_zero funded0, Nat.pos_of_ne_zero funded1⟩

theorem mul_le_of_withdrawal (paid : withdrawal reserve burned totalShare = .ok result) :
    result * totalShare ≤ reserve * burned := by
  obtain ⟨-, -, -, rfl⟩ := withdrawal_eq_ok_iff.1 paid
  exact Nat.div_mul_le_self _ _

theorem le_of_withdrawal (paid : withdrawal reserve burned totalShare = .ok result)
    (part : burned ≤ totalShare) : result ≤ reserve := by
  obtain ⟨-, -, -, rfl⟩ := withdrawal_eq_ok_iff.1 paid
  exact refund_le part

theorem pos_of_withdrawal (paid : withdrawal reserve burned totalShare = .ok result) :
    0 < totalShare :=
  Nat.pos_of_ne_zero (withdrawal_eq_ok_iff.1 paid).2.1.2

/-- Two reserves that cover the square of a supply go on to cover it where the reserve per share
    does not fall on either side. -/
theorem sq_le_of_undiluted {supply newPool0 newPool1 newSupply : Nat} (funded0 : 0 < pool0)
    (funded1 : 0 < pool1) (covered : supply * supply ≤ pool0 * pool1)
    (undiluted0 : pool0 * newSupply ≤ newPool0 * supply)
    (undiluted1 : pool1 * newSupply ≤ newPool1 * supply) :
    newSupply * newSupply ≤ newPool0 * newPool1 := by
  apply Nat.le_of_mul_le_mul_left _ (Nat.mul_pos funded0 funded1)
  calc pool0 * pool1 * (newSupply * newSupply)
      = pool0 * newSupply * (pool1 * newSupply) := by ring
    _ ≤ newPool0 * supply * (newPool1 * supply) := Nat.mul_le_mul undiluted0 undiluted1
    _ = supply * supply * (newPool0 * newPool1) := by ring
    _ ≤ pool0 * pool1 * (newPool0 * newPool1) := Nat.mul_le_mul_right _ covered

end VeiledPool.Liquidity
