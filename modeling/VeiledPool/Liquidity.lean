import VeiledPool.Wide.Basic

/-! # Liquidity shares

Shares are claims on both reserves. The first deposit mints the geometric mean
of its two amounts; a later one mints what the side that buys fewer shares
allows; a withdrawal pays out each reserve in proportion. All three round in the
pool's favour.
-/

namespace VeiledPool.Liquidity

/-- Shares of the first deposit. -/
def initialShares (deposit0 deposit1 : Nat) : Except Fault Nat := do
  let shares ← Wide.require (.initialShares deposit0 deposit1)
    (Wide.root (Wide.mul (Wide.lift deposit0) (Wide.lift deposit1)))
  narrow "shares" shares

/-- Shares that one side of a deposit would buy by itself. -/
def proRata (side : Side) (deposit totalShare pool : Nat) : Except Fault Int :=
  Wide.require (.proRata side deposit totalShare pool)
    (Wide.div (Wide.mul (Wide.lift deposit) (Wide.lift totalShare)) (Wide.lift pool))

/-- Shares of a deposit into a funded pool. -/
def additionalShares (deposit0 deposit1 pool0 pool1 totalShare : Nat) : Except Fault Nat :=
  if pool0 = 0 ∨ pool1 = 0 then
    .error (Fault.degenerate (.emptyForDeposit pool0 pool1)).raised
  else do
    let share0 ← proRata .first deposit0 totalShare pool0
    let share1 ← proRata .second deposit1 totalShare pool1
    narrow "shares" (min share0 share1)

/-- Part of one reserve that is paid out for burned shares. -/
def withdrawal (reserve burned totalShare : Nat) : Except Fault Nat :=
  if totalShare = 0 then .error (.degenerate .noShares)
  else do
    let amount ← Wide.require (.refund reserve burned totalShare)
      (Wide.div (Wide.mul (Wide.lift reserve) (Wide.lift burned)) (Wide.lift totalShare))
    narrow "withdrawn_asset_amount" amount

end VeiledPool.Liquidity
