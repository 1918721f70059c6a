import Mathlib.Order.Bounds.Basic
import VeiledPool.Proofs.Liquidity
import VeiledPool.Proofs.Request.Pricing

/-! # Exact shares and refunds

Shares are minted and refunds are paid as the largest numbers that take nothing
from those who hold shares already. Each computation gives that number wherever
its operands, their product and the number itself are in range, and reports an
overflow anywhere else, empty pools and supplies apart. A report cannot name operands
of any size, and an illegible value takes its place where it would have to.
-/

namespace VeiledPool

theorem lt_wideMax_sq_root : wideMax < (amountMax + 1) * (amountMax + 1) := by
  decide +kernel

theorem floorSqrt_le_amountMax {n : Nat} (small : n ≤ wideMax) : floorSqrt n ≤ amountMax := by
  by_contra large
  have square : (amountMax + 1) * (amountMax + 1) ≤ floorSqrt n * floorSqrt n :=
    Nat.mul_le_mul (by omega) (by omega)
  have bound := square.trans ((floorSqrt_sq_le n).trans small)
  exact absurd lt_wideMax_sq_root (Nat.not_lt.2 bound)

namespace Liquidity

/-- How a computation on some operands ends that has no answer in a degenerate state, and
    otherwise the one that the specification gives, if all the numbers are in range. -/
structure Settles (operands : List Int) (degenerate inRange : Prop) (specified : Nat → Prop)
    (answer : Except Fault Nat) : Prop where
  degenerates : degenerate → RefusedAs .degenerate operands answer
  degenerate_of : (∃ cause, answer = .error (.degenerate cause)) → degenerate
  answers : ¬ degenerate → ((∃ amount, answer = .ok amount) ↔ inRange)
  meets : ∀ amount, answer = .ok amount → specified amount
  overflows : ¬ degenerate → ¬ inRange → RefusedAs .overflow operands answer

variable {operands : List Int} {degenerate inRange : Prop} {specified : Nat → Prop}
  {answer : Except Fault Nat} {amount : Nat}

theorem settles_of_eq_ok_iff
    (degenerated : degenerate → RefusedAs .degenerate operands answer)
    (answered : ¬ degenerate → ∀ result, answer = .ok result ↔ inRange ∧ result = amount)
    (meets : ¬ degenerate → specified amount)
    (overflows : ¬ degenerate → FailsOnly (Fault.RaisedAs .overflow operands) answer) :
    Settles operands degenerate inRange specified answer where
  degenerates := degenerated
  degenerate_of := by
    rintro ⟨cause, failed⟩
    by_contra sound
    obtain ⟨overflow, mismatch⟩ | ⟨-, mismatch⟩ := overflows sound _ failed
    all_goals cases mismatch
  answers sound := by
    simp only [answered sound]
    constructor
    · rintro ⟨result, range, -⟩
      exact range
    · intro range
      exact ⟨amount, range, rfl⟩
  meets result given := by
    have sound : ¬ degenerate := by
      intro empty
      obtain ⟨fault, failed, -⟩ := degenerated empty
      cases given.symm.trans failed
    obtain ⟨-, rfl⟩ := (answered sound result).1 given
    exact meets sound
  overflows sound outside := by
    refine (overflows sound).refusedAs ?_
    rintro ⟨result, given⟩
    exact outside ((answered sound result).1 given).1

theorem exists_greatest_le_iff {candidates : Set Nat} (greatest : IsGreatest candidates amount)
    (bound : Nat) : (∃ other ≤ bound, IsGreatest candidates other) ↔ amount ≤ bound := by
  constructor
  · rintro ⟨other, small, alsoGreatest⟩
    rwa [greatest.unique alsoGreatest]
  · intro small
    exact ⟨amount, small, greatest⟩

/-! ## The first deposit -/

def IsRoot (n root : Nat) : Prop :=
  root * root ≤ n ∧ n < (root + 1) * (root + 1)

theorem settles_initialShares (deposit0 deposit1 : Nat) :
    Settles [deposit0, deposit1] False
      (deposit0 ≤ wideMax ∧ deposit1 ≤ wideMax ∧ deposit0 * deposit1 ≤ wideMax)
      (IsRoot (deposit0 * deposit1)) (initialShares deposit0 deposit1) := by
  refine settles_of_eq_ok_iff False.elim (fun _ result => ?_) (fun _ => floorSqrt_bounds _)
    fun _ => failsOnly_initialShares raisedAs_kind raisedAs_illegible
  rw [initialShares_eq_ok_iff]
  constructor
  · rintro ⟨range, -, root⟩
    exact ⟨range, root⟩
  · rintro ⟨range, root⟩
    exact ⟨range, floorSqrt_le_amountMax range.2.2, root⟩

/-! ## Later deposits -/

/-- The mints that take nothing from the shares there are, on either side. -/
def Undiluting (deposit pool : Side → Nat) (totalShare : Nat) : Set Nat :=
  {minted | ∀ side, pool side * (totalShare + minted) ≤ (pool side + deposit side) * totalShare}

/-- The numbers that go into a mint are wide, and an amount comes out. -/
structure MintInRange (deposit pool : Side → Nat) (totalShare : Nat) : Prop where
  deposits : ∀ side, deposit side ≤ wideMax
  pools : ∀ side, pool side ≤ wideMax
  supply : totalShare ≤ wideMax
  products : ∀ side, deposit side * totalShare ≤ wideMax
  share : ∃ share ≤ amountMax, IsGreatest (Undiluting deposit pool totalShare) share

variable {deposit more pool : Side → Nat} {totalShare : Nat}

theorem mem_undiluting_iff (funded : ∀ side, 0 < pool side) {minted : Nat} :
    minted ∈ Undiluting deposit pool totalShare ↔
      minted ≤ min (deposit .first * totalShare / pool .first)
        (deposit .second * totalShare / pool .second) := by
  have alone (side : Side) :
      pool side * (totalShare + minted) ≤ (pool side + deposit side) * totalShare ↔
        minted ≤ deposit side * totalShare / pool side := by
    rw [Nat.le_div_iff_mul_le (funded side), Nat.mul_add, Nat.add_mul, Nat.mul_comm minted]
    exact Nat.add_le_add_iff_left
  rw [Nat.le_min]
  constructor
  · intro kept
    exact ⟨(alone .first).1 (kept .first), (alone .second).1 (kept .second)⟩
  · rintro ⟨first, second⟩ side
    cases side with
    | first => exact (alone .first).2 first
    | second => exact (alone .second).2 second

theorem undiluting_mono (larger : ∀ side, deposit side ≤ more side) :
    Undiluting deposit pool totalShare ⊆ Undiluting more pool totalShare := by
  intro minted kept side
  exact (kept side).trans (Nat.mul_le_mul_right _ (Nat.add_le_add_left (larger side) _))

theorem isGreatest_undiluting (funded : ∀ side, 0 < pool side) :
    IsGreatest (Undiluting deposit pool totalShare)
      (min (deposit .first * totalShare / pool .first)
        (deposit .second * totalShare / pool .second)) := by
  rw [Set.ext fun _ => mem_undiluting_iff funded]
  exact isGreatest_Iic

theorem settles_additionalShares (deposit pool : Side → Nat) (totalShare : Nat) :
    Settles [deposit .first, deposit .second, pool .first, pool .second, totalShare]
      (pool .first = 0 ∨ pool .second = 0) (MintInRange deposit pool totalShare)
      (IsGreatest (Undiluting deposit pool totalShare))
      (additionalShares (deposit .first) (deposit .second) (pool .first) (pool .second)
        totalShare) := by
  have positive (sound : ¬ (pool .first = 0 ∨ pool .second = 0)) : ∀ side, 0 < pool side := by
    intro side
    cases side <;> omega
  refine settles_of_eq_ok_iff ?degenerated ?answered
    (fun sound => isGreatest_undiluting (positive sound))
    fun sound => failsOnly_additionalShares raisedAs_kind (fun empty => absurd empty sound)
      raisedAs_illegible
  case degenerated =>
    intro empty
    rw [additionalShares, if_pos empty]
    exact refusedAs_raised (by simp [Fault.figures, Degeneracy.figures])
  case answered =>
    intro sound result
    have greatest := exists_greatest_le_iff
      (isGreatest_undiluting (positive sound) : IsGreatest (Undiluting deposit pool totalShare) _)
      amountMax
    rw [additionalShares_eq_ok_iff, ← greatest]
    constructor
    · rintro ⟨⟨small0, supply, product0⟩, ⟨pooled0, -⟩, ⟨small1, product1⟩, ⟨pooled1, -⟩, share,
        made⟩
      refine ⟨⟨?_, ?_, supply, ?_, share⟩, made⟩
      all_goals
        intro side
        cases side <;> assumption
    · rintro ⟨⟨small, pooled, supply, product, share⟩, made⟩
      exact ⟨⟨small _, supply, product _⟩, ⟨pooled _, (positive sound _).ne'⟩,
        ⟨small _, product _⟩, ⟨pooled _, (positive sound _).ne'⟩, share, made⟩

/-! ## Withdrawals -/

/-- The refunds that are no larger than the part of the reserve that was burned. -/
def Payable (reserve burned totalShare : Nat) : Set Nat :=
  {paid | paid * totalShare ≤ reserve * burned}

structure RefundInRange (reserve burned totalShare : Nat) : Prop where
  held : reserve ≤ wideMax
  part : burned ≤ wideMax
  supply : totalShare ≤ wideMax
  product : reserve * burned ≤ wideMax
  paid : ∃ paid ≤ amountMax, IsGreatest (Payable reserve burned totalShare) paid

structure IsRefund (reserve burned totalShare paid : Nat) : Prop where
  largest : IsGreatest (Payable reserve burned totalShare) paid
  le_reserve : burned ≤ totalShare → paid ≤ reserve
  lt_reserve : burned < totalShare → 0 < reserve → paid < reserve

variable {reserve burned : Nat}

theorem isGreatest_payable (shared : totalShare ≠ 0) :
    IsGreatest (Payable reserve burned totalShare) (reserve * burned / totalShare) := by
  have bounded (paid : Nat) :
      paid ∈ Payable reserve burned totalShare ↔ paid ≤ reserve * burned / totalShare := by
    rw [Nat.le_div_iff_mul_le (Nat.pos_of_ne_zero shared)]
    rfl
  rw [Set.ext bounded]
  exact isGreatest_Iic

theorem refund_lt (part : burned < totalShare) (funded : 0 < reserve) :
    reserve * burned / totalShare < reserve := by
  apply Nat.div_lt_of_lt_mul
  rw [Nat.mul_comm totalShare]
  exact Nat.mul_lt_mul_of_pos_left part funded

theorem settles_withdrawal (reserve burned totalShare : Nat) :
    Settles [reserve, burned, totalShare] (totalShare = 0)
      (RefundInRange reserve burned totalShare) (IsRefund reserve burned totalShare)
      (withdrawal reserve burned totalShare) := by
  refine settles_of_eq_ok_iff ?degenerated ?answered
    (fun shared => ⟨isGreatest_payable shared, refund_le, refund_lt⟩)
    fun shared => failsOnly_withdrawal raisedAs_kind (fun none => absurd none shared)
      raisedAs_illegible
  case degenerated =>
    intro none
    rw [withdrawal, if_pos none]
    exact ⟨_, rfl, raisedAs_kind _⟩
  case answered =>
    intro shared result
    have greatest := exists_greatest_le_iff
      (isGreatest_payable shared : IsGreatest (Payable reserve burned totalShare) _) amountMax
    rw [withdrawal_eq_ok_iff, ← greatest]
    constructor
    · rintro ⟨⟨held, part, product⟩, ⟨supply, -⟩, paid, made⟩
      exact ⟨⟨held, part, supply, product, paid⟩, made⟩
    · rintro ⟨⟨held, part, supply, product, paid⟩, made⟩
      exact ⟨⟨held, part, product⟩, ⟨supply, shared⟩, paid, made⟩

/-- Coins that buy as much as the tokens that come with them, and some of both on top. -/
def sampleDeposit : Side → Nat
  | .first => 10
  | .second => 40

def sampleMore : Side → Nat
  | .first => 15
  | .second => 59

def samplePool : Side → Nat
  | .first => 1000
  | .second => 4000

end Liquidity

end VeiledPool
