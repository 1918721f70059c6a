import VeiledPool.Proofs.Session.Dilution
import VeiledPool.Proofs.Session.Trade

/-! # Solvency

The supply of shares never exceeds the geometric mean of the reserves. Funds and
swaps keep the supply and do not lower the product; the first deposit mints at
most the root of the product it brings; and every other change of the supply
leaves no share worth less than before, which carries the bound over.
-/

namespace VeiledPool.Session

/-- The supply is at most the geometric mean of the reserves. -/
def Solvent (session : Session) : Prop :=
  session.supply * session.supply ≤ session.product

variable {session before after : Session}

theorem Solvent.funded (solvent : Solvent session) (supplied : 0 < session.supply) :
    ∀ side, 0 < session.reserve side :=
  funded_iff.1 (lt_of_lt_of_le (Nat.mul_pos supplied supplied) solvent)

theorem Solvent.of_product_le (solvent : Solvent before)
    (sameSupply : after.supply = before.supply) (kept : before.product ≤ after.product) :
    Solvent after := by
  rw [Solvent, sameSupply]
  exact Nat.le_trans solvent kept

/-- Where no share loses value the bound carries over to any other supply. -/
theorem Solvent.of_undiluted (solvent : Solvent before) (undiluted : Undiluted before after)
    (supplied : 0 < before.supply) : Solvent after := by
  have funded := solvent.funded supplied
  exact Liquidity.sq_le_of_undiluted (funded .first) (funded .second) solvent
    (undiluted .first) (undiluted .second)

theorem Swapped.supply {order : SwapOrder} {side : Side} {fill : Curve.Fill}
    (swapped : Swapped before order after side fill) : after.supply = before.supply := by
  simp only [Session.supply, Ledger.totalShare, swapped.shares]

/-- The first deposit mints at most the root of the product that it brings. -/
theorem Provided.solvent_of_first {result : ProvideResult} (provided : Provided before result after)
    (unsupplied : before.supply = 0) : Solvent after := by
  have minted := provided.minted
  rw [Exchange.sharesFor, if_pos unsupplied] at minted
  rw [Solvent, provided.issued, unsupplied, Nat.zero_add, product, provided.deposited,
    provided.deposited]
  exact (Liquidity.sq_le_of_initialShares minted).trans
    (Nat.mul_le_mul (Nat.le_add_left _ _) (Nat.le_add_left _ _))

theorem turn_solvent {turn : Turn} (solvent : Solvent session)
    (apart : turn.actor? ≠ some session.ledger.account) : Solvent (session.turn turn).2 := by
  have passage := passage session turn apart
  generalize session.turn turn = result at passage ⊢
  cases passage with
  | donated unaccepted donated =>
    exact solvent.of_product_le donated.supply donated.product_le
  | swapped swapped =>
    exact solvent.of_product_le swapped.supply swapped.product_le
  | provided provided =>
    rcases Nat.eq_zero_or_pos session.supply with unsupplied | supplied
    · exact provided.solvent_of_first unsupplied
    · exact solvent.of_undiluted (provided.undiluted supplied) supplied
  | withdrawn withdrawn =>
    have supplied := Liquidity.pos_of_withdrawal (withdrawn.paid .first)
    exact solvent.of_undiluted withdrawn.undiluted supplied

theorem run_solvent {turns : List Turn} (solvent : Solvent session)
    (others : ∀ turn ∈ turns, turn.actor? ≠ some session.ledger.account) :
    Solvent (session.run turns) ∧
      (session.run turns).ledger.account = session.ledger.account := by
  have foreign : ∀ turn ∈ turns, True ∧ turn.actor? ≠ some session.ledger.account := by
    intro turn member
    exact ⟨trivial, others turn member⟩
  apply run_preserves Solvent _ foreign solvent
  intro now turn _ apart solvent
  exact turn_solvent solvent apart

/-- A session that starts with nothing. -/
def Fresh (session : Session) : Prop :=
  session.ledger.books = .empty

theorem Fresh.solvent (fresh : Fresh session) : Solvent session := by
  have unsupplied : session.supply = 0 := by
    rw [supply, Ledger.totalShare, fresh]
    rfl
  simp [Solvent, unsupplied]

/-- From an empty ledger on no run of turns by others than the pair, however each
    of them ends, brings the supply of shares above the geometric mean of the
    reserves, and no share ever stands against an empty reserve. -/
theorem run_stays_solvent (session : Session) (fresh : Fresh session) (turns : List Turn)
    (others : ∀ turn ∈ turns, turn.actor? ≠ some session.ledger.account) :
    (session.run turns).supply * (session.run turns).supply ≤
        (session.run turns).reserve .first * (session.run turns).reserve .second ∧
      (0 < (session.run turns).supply → ∀ side, 0 < (session.run turns).reserve side) := by
  have solvent := (run_solvent fresh.solvent others).1
  exact ⟨solvent, solvent.funded⟩

/-- A run with swaps, one of which is rejected after its offer came in. -/
theorem run_stays_solvent_sample :
    Fresh sample ∧
      (∀ turn ∈ sampleOpening ++ sampleTrades, turn.actor? ≠ some sample.ledger.account) ∧
      (sample.run (sampleOpening ++ sampleTrades)).supply *
          (sample.run (sampleOpening ++ sampleTrades)).supply ≤
        (sample.run (sampleOpening ++ sampleTrades)).reserve .first *
          (sample.run (sampleOpening ++ sampleTrades)).reserve .second ∧
      ∀ side, 0 < (sample.run (sampleOpening ++ sampleTrades)).reserve side := by
  have others : ∀ turn ∈ sampleOpening ++ sampleTrades,
      turn.actor? ≠ some sample.ledger.account := by
    decide +kernel
  obtain ⟨covered, funded⟩ := run_stays_solvent sample rfl _ others
  exact ⟨rfl, others, covered, funded (by decide +kernel)⟩

end VeiledPool.Session
