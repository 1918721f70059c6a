import Mathlib.Data.List.Forall2
import Mathlib.Tactic.Ring
import VeiledPool.Proofs.Liquidity

/-! # Withdrawals one after the other

Shares may be burned in parts and by several holders, each of them refunded from
the reserve that the ones before left. Every refund is rounded down, and what that
leaves behind belongs to the shares that are left. So nobody loses by being late,
no split pays more than one withdrawal would, and whoever burns the last share gets
whatever is left.
-/

namespace VeiledPool.Liquidity

/-- The refunds of burns, each from the reserve and out of the supply that the one before left.
    Neither of the two goes below zero as long as no more is burned than there is. -/
def refundAll (reserve totalShare : Nat) : List Nat → Except Fault (List Nat)
  | [] => .ok []
  | burned :: rest => do
    let refund ← withdrawal reserve burned totalShare
    let refunds ← refundAll (reserve - refund) (totalShare - burned) rest
    pure (refund :: refunds)

variable {reserve totalShare burned other refund later burnedLater : Nat}
  {burns refunds : List Nat}

theorem eq_nil_of_refundAll_zero (paid : refundAll reserve 0 burns = .ok refunds) : burns = [] := by
  cases burns with
  | nil => rfl
  | cons burned rest =>
    obtain ⟨refund, first, -⟩ := bind_eq_ok.1 paid
    exact absurd (pos_of_withdrawal first) (Nat.lt_irrefl 0)

/-- A refund that is rounded down leaves the others no less than they would have got. -/
theorem refund_le_later (fair : refund * totalShare ≤ reserve * burned)
    (left : burned < totalShare) :
    reserve * other / totalShare ≤ (reserve - refund) * other / (totalShare - burned) := by
  rw [Nat.le_div_iff_mul_le (Nat.sub_pos_of_lt left)]
  have whole : reserve * other / totalShare * totalShare ≤ reserve * other :=
    Nat.div_mul_le_self _ _
  generalize reserve * other / totalShare = entitled at whole ⊢
  refine Nat.le_of_mul_le_mul_right ?_ (Nat.zero_lt_of_lt left)
  calc entitled * (totalShare - burned) * totalShare
      = entitled * totalShare * (totalShare - burned) := Nat.mul_right_comm ..
    _ ≤ reserve * other * (totalShare - burned) := Nat.mul_le_mul_right _ whole
    _ = (reserve * totalShare - reserve * burned) * other := by
        rw [← Nat.mul_sub]; exact Nat.mul_right_comm ..
    _ ≤ (reserve * totalShare - refund * totalShare) * other :=
        Nat.mul_le_mul_right _ (Nat.sub_le_sub_left fair _)
    _ = (reserve - refund) * other * totalShare := by
        rw [← Nat.sub_mul]; exact Nat.mul_right_comm ..

/-- If a refund is no more than fair and the refunds after it are no more than fair to those who
    are left, all of them together are no more than fair. -/
theorem add_refunds_mul_le (fair : refund * totalShare ≤ reserve * burned)
    (fairLater : later * (totalShare - burned) ≤ (reserve - refund) * burnedLater)
    (within : refund ≤ reserve) (left : burned < totalShare)
    (part : burned + burnedLater ≤ totalShare) :
    (refund + later) * totalShare ≤ reserve * (burned + burnedLater) := by
  obtain ⟨kept, rfl⟩ := Nat.exists_eq_add_of_le within
  obtain ⟨spare, sum⟩ := Nat.exists_eq_add_of_le part
  have rest : totalShare - burned = burnedLater + spare := by omega
  rw [rest, Nat.add_sub_cancel_left] at fairLater
  refine Nat.le_of_mul_le_mul_right ?_ (by omega : 0 < burnedLater + spare)
  calc (refund + later) * totalShare * (burnedLater + spare)
      = refund * totalShare * (burnedLater + spare) +
          later * (burnedLater + spare) * totalShare := by ring
    _ ≤ refund * totalShare * (burnedLater + spare) + kept * burnedLater * totalShare :=
        Nat.add_le_add_left (Nat.mul_le_mul_right _ fairLater) _
    _ = (refund + kept) * burnedLater * totalShare + refund * totalShare * spare := by ring
    _ ≤ (refund + kept) * burnedLater * totalShare + (refund + kept) * burned * spare :=
        Nat.add_le_add_left (Nat.mul_le_mul_right _ fair) _
    _ = (refund + kept) * (burned + burnedLater) * (burnedLater + spare) := by rw [sum]; ring

/-- What burns of parts of a supply are refunded, one after the other. -/
structure Fair (reserve totalShare : Nat) (burns refunds : List Nat) : Prop where
  /-- Nobody gets less than by being the first. -/
  each : List.Forall₂ (fun burned refund => reserve * burned / totalShare ≤ refund) burns refunds
  total : refunds.sum * totalShare ≤ reserve * burns.sum
  exhausts : burns.sum = totalShare → refunds.sum = reserve

theorem Fair.nil (supplied : 0 < totalShare) : Fair reserve totalShare [] [] where
  each := .nil
  total := Nat.le_of_eq (Nat.zero_mul _)
  exhausts spent := absurd spent supplied.ne

theorem Fair.last (paid : withdrawal reserve totalShare totalShare = .ok refund) :
    Fair reserve totalShare [totalShare] [refund] := by
  have supplied := pos_of_withdrawal paid
  obtain ⟨-, -, -, rfl⟩ := withdrawal_eq_ok_iff.1 paid
  have whole : reserve * totalShare / totalShare = reserve := Nat.mul_div_cancel _ supplied
  refine ⟨.cons le_rfl .nil, ?_, fun _ => ?_⟩
  · simp [whole]
  · simp [whole]

theorem Fair.cons (paid : withdrawal reserve burned totalShare = .ok refund)
    (left : burned < totalShare) (part : burned + burns.sum ≤ totalShare)
    (fair : Fair (reserve - refund) (totalShare - burned) burns refunds) :
    Fair reserve totalShare (burned :: burns) (refund :: refunds) where
  each := by
    refine .cons ?_ (fair.each.imp fun other refund enough => ?_)
    · exact (withdrawal_eq_ok_iff.1 paid).2.2.2.ge
    · exact (refund_le_later (mul_le_of_withdrawal paid) left).trans enough
  total := by
    rw [List.sum_cons, List.sum_cons]
    exact add_refunds_mul_le (mul_le_of_withdrawal paid) fair.total (le_of_withdrawal paid left.le)
      left part
  exhausts spent := by
    rw [List.sum_cons] at spent ⊢
    rw [fair.exhausts (Nat.eq_sub_of_add_eq' spent)]
    exact Nat.add_sub_cancel' (le_of_withdrawal paid left.le)

theorem fair_refundAll (paid : refundAll reserve totalShare burns = .ok refunds)
    (supplied : 0 < totalShare) (part : burns.sum ≤ totalShare) :
    Fair reserve totalShare burns refunds := by
  induction burns generalizing reserve totalShare refunds with
  | nil =>
    cases paid
    exact .nil supplied
  | cons burned rest ih =>
    simp only [refundAll, bind_eq_ok, pure_eq_ok] at paid
    obtain ⟨refund, first, later, paidLater, rfl⟩ := paid
    rw [List.sum_cons] at part
    rcases Nat.lt_or_eq_of_le (Nat.le_of_add_right_le part) with left | rfl
    · exact .cons first left part
        (ih paidLater (Nat.sub_pos_of_lt left) (Nat.le_sub_of_add_le' part))
    · rw [Nat.sub_self] at paidLater
      cases eq_nil_of_refundAll_zero paidLater
      cases paidLater
      exact .last first

theorem exists_refundAll (held : reserve ≤ amountMax) (issued : totalShare ≤ amountMax)
    (part : burns.sum ≤ totalShare) (inTime : burns.dropLast.sum < totalShare) :
    ∃ refunds, refundAll reserve totalShare burns = .ok refunds := by
  induction burns generalizing reserve totalShare with
  | nil => exact ⟨[], rfl⟩
  | cons burned rest ih =>
    rw [List.sum_cons] at part
    have within : burned ≤ totalShare := Nat.le_of_add_right_le part
    have paid : withdrawal reserve burned totalShare = .ok (reserve * burned / totalShare) :=
      withdrawal_of_native held issued (Nat.zero_lt_of_lt inTime) within
    have onward : ∃ refunds, refundAll (reserve - reserve * burned / totalShare)
        (totalShare - burned) rest = .ok refunds := by
      cases rest with
      | nil => exact ⟨[], rfl⟩
      | cons next others =>
        rw [List.dropLast_cons_cons, List.sum_cons] at inTime
        exact ih ((Nat.sub_le _ _).trans held) ((Nat.sub_le _ _).trans issued)
          (Nat.le_sub_of_add_le' part) (by omega)
    obtain ⟨refunds, paidLater⟩ := onward
    exact ⟨_, by rw [refundAll, paid, ok_bind, paidLater]; rfl⟩

/-- Burns of parts of a supply, in any number and order, are each refunded no less than they would
    be as the first, and together no more than a single one would be. Burning the whole supply
    pays out the whole reserve. Amounts are refunded as long as shares are left to burn. -/
theorem split_withdrawals_fair (reserve totalShare : Nat) (burns : List Nat)
    (supplied : 1 ≤ totalShare) (part : burns.sum ≤ totalShare) :
    (∀ refunds, refundAll reserve totalShare burns = .ok refunds →
      List.Forall₂ (fun burned refund => reserve * burned / totalShare ≤ refund) burns refunds ∧
        refunds.sum ≤ reserve * burns.sum / totalShare ∧
        (burns.sum = totalShare → refunds.sum = reserve)) ∧
    (reserve ≤ amountMax → totalShare ≤ amountMax → burns.dropLast.sum < totalShare →
      ∃ refunds, refundAll reserve totalShare burns = .ok refunds) := by
  refine ⟨fun refunds paid => ?_, fun held issued => exists_refundAll held issued part⟩
  have fair := fair_refundAll paid supplied part
  exact ⟨fair.each, (Nat.le_div_iff_mul_le supplied).2 fair.total, fair.exhausts⟩

/-- Four burns that take all shares of a reserve that is not divisible by them. -/
theorem split_withdrawals_fair_sample :
    (1 ≤ 7 ∧ [2, 1, 0, 4].sum ≤ 7) ∧ refundAll 10 7 [2, 1, 0, 4] = .ok [2, 1, 0, 7] ∧
      List.Forall₂ (fun burned refund => 10 * burned / 7 ≤ refund) [2, 1, 0, 4] [2, 1, 0, 7] ∧
      [2, 1, 0, 7].sum = 10 ∧ ∃ refunds, refundAll 10 7 [2, 1, 0, 4] = .ok refunds := by
  have supplied : 1 ≤ 7 := by decide
  have part : [2, 1, 0, 4].sum ≤ 7 := by decide
  have paid : refundAll 10 7 [2, 1, 0, 4] = .ok [2, 1, 0, 7] := by decide +kernel
  obtain ⟨fair, answers⟩ := split_withdrawals_fair 10 7 [2, 1, 0, 4] supplied part
  obtain ⟨each, -, exhausts⟩ := fair _ paid
  exact ⟨⟨supplied, part⟩, paid, each, exhausts rfl,
    answers (by decide +kernel) (by decide +kernel) (by decide)⟩

end VeiledPool.Liquidity
