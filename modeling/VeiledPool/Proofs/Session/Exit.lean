import VeiledPool.Proofs.Ledger.Execution
import VeiledPool.Proofs.Session.Solvency

/-! # Leaving the pool

Every holder can burn any part of their shares and is paid the exact part of both
reserves. That no range is exceeded follows from solvency: the supply is bounded
by the reserves, so every product of the computation fits into 256 bits. That the
ledger can carry out the effects follows from the supply being the sum of all
holdings and from refunds never exceeding a reserve.
-/

namespace VeiledPool.Session

variable {session : Session} {holder : Holder} {burned : Nat}

theorem Solvent.supply_le (solvent : Solvent session)
    (bounded : ∀ side, session.reserve side ≤ amountMax) : session.supply ≤ amountMax := by
  by_contra large
  have square : amountMax * amountMax < session.supply * session.supply :=
    Nat.mul_self_lt_mul_self (Nat.lt_of_not_le large)
  have product := Nat.mul_le_mul (bounded .first) (bounded .second)
  exact absurd (Nat.le_trans solvent product) (Nat.not_le.2 square)

theorem Solvent.withdrawal (solvent : Solvent session) (supplied : 0 < session.supply)
    (bounded : ∀ side, session.reserve side ≤ amountMax) (part : burned ≤ session.supply)
    (side : Side) :
    Liquidity.withdrawal (session.reserve side) burned session.supply =
      .ok (session.reserve side * burned / session.supply) := by
  have supplySmall := solvent.supply_le bounded
  exact Liquidity.withdrawal_of_native (bounded side) supplySmall supplied part

/-- What a withdrawal of any held part amounts to, down to the effects that the
    ledger carries out. -/
theorem Solvent.withdraw (solvent : Solvent session) (supplied : 0 < session.supply)
    (bounded : ∀ side, session.reserve side ≤ amountMax)
    (held : burned ≤ session.ledger.books.shares.get holder) :
    ∃ paid books, Exchange.withdraw session.ledger session.pair ⟨holder, burned⟩ = .ok paid ∧
      session.ledger.books.carryAll session.ledger.account paid.effects = .ok books ∧
      ∀ side : Side, side.of paid.refunds =
        ⟨session.pair.info side, session.reserve side * burned / session.supply⟩ := by
  have part := held.trans (session.ledger.books.shares.get_le_supply holder)
  obtain ⟨books, applied⟩ := Books.exists_carryAll_payout
    session.pair.info_first_ne_second.symm (Int.natCast_nonneg burned) (Int.ofNat_le.2 held)
    (Liquidity.refund_le part) (Liquidity.refund_le part)
  refine ⟨⟨_, _, _⟩, books, Exchange.withdraw_eq_ok_iff.2 ⟨_, _, Int.natCast_nonneg _,
    solvent.withdrawal supplied bounded part .first,
    solvent.withdrawal supplied bounded part .second, rfl, rfl, rfl⟩, applied, fun side => ?_⟩
  cases side <;> rfl

/-- The holder can burn that many shares and gets all that is due: the withdrawal is
    accepted, its effects are carried out, each balance grows by the exact part of the
    reserve, and whoever burns all the shares there are takes all there is. -/
def CanExit (session : Session) (holder : Holder) (burned : Nat) : Prop :=
  ∃ paid after,
    Exchange.handle session.ledger session.rate session.pair (.withdraw ⟨holder, burned⟩)
      session.entropy = (.accepted session.pair (.withdraw paid), session.entropy) ∧
    session.ledger.applyEffects paid.effects = .ok after ∧
    (∀ side, after.balance holder (session.pair.info side) =
      session.ledger.balance holder (session.pair.info side) +
        session.reserve side * burned / session.supply) ∧
    (burned = session.supply → after.totalShare = 0 ∧
      ∀ side, (after.pool session.pair side).amount = 0)

/-- Every holder can always leave. On whatever run of turns by others than the pair
    an empty ledger got to where it is, as long as its reserves fit into 128 bits any
    part of the shares that anybody holds can be burned. -/
theorem holders_can_exit (session : Session) (fresh : Fresh session) (turns : List Turn)
    (others : ∀ turn ∈ turns, turn.actor? ≠ some session.ledger.account)
    (supplied : 0 < (session.run turns).supply)
    (bounded : ∀ side, (session.run turns).reserve side < 2 ^ 128)
    (holder : Holder) (apart : holder ≠ session.ledger.account) (burned : Nat)
    (held : burned ≤ (session.run turns).ledger.books.shares.get holder) :
    CanExit (session.run turns) holder burned := by
  obtain ⟨solvent, sameAccount⟩ := run_solvent fresh.solvent others
  generalize session.run turns = now at *
  have small (side : Side) : now.reserve side ≤ amountMax := Nat.le_sub_one_of_lt (bounded side)
  obtain ⟨paid, books, answered, applied, refunds⟩ := solvent.withdraw supplied small held
  have withdrawn := withdrawn (sameAccount ▸ apart) answered applied
  refine ⟨paid, { now.ledger with books }, ?accepted, ?carried, fun side => ?paidOut, ?emptied⟩
  case accepted =>
    simp only [Exchange.handle, Exchange.perform, answered]
    rfl
  case carried => exact bind_eq_ok.2 ⟨books, applied, rfl⟩
  case paidOut =>
    have received := withdrawn.received side
    rw [refunds] at received
    exact received
  case emptied =>
    rintro rfl
    refine ⟨?_, fun side => ?_⟩
    · have left := withdrawn.burned
      rw [Int.toNat_natCast] at left
      exact Nat.add_right_cancel (left.trans (Nat.zero_add _).symm)
    · have left := withdrawn.refunded side
      rw [refunds, Nat.mul_div_cancel _ supplied] at left
      exact Nat.add_right_cancel (left.trans (Nat.zero_add _).symm)

/-- The only provider of the example takes everything. -/
theorem holders_can_exit_sample :
    Fresh sample ∧
      (∀ turn ∈ sampleOpening ++ sampleTrades, turn.actor? ≠ some sample.ledger.account) ∧
      (sample.run (sampleOpening ++ sampleTrades)).supply = 2000 ∧
      (∀ side, (sample.run (sampleOpening ++ sampleTrades)).reserve side < 2 ^ 128) ∧
      CanExit (sample.run (sampleOpening ++ sampleTrades)) "provider" 2000 := by
  have others : ∀ turn ∈ sampleOpening ++ sampleTrades,
      turn.actor? ≠ some sample.ledger.account := by
    decide +kernel
  have supply : (sample.run (sampleOpening ++ sampleTrades)).supply = 2000 := by decide +kernel
  have bounded : ∀ side, (sample.run (sampleOpening ++ sampleTrades)).reserve side < 2 ^ 128 := by
    intro side
    cases side <;> decide +kernel
  exact ⟨rfl, others, supply, bounded, holders_can_exit sample rfl _ others (by decide +kernel)
    bounded "provider" (by decide +kernel) 2000 (by decide +kernel)⟩

end VeiledPool.Session
