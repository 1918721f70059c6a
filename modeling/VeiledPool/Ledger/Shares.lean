import VeiledPool.Ledger.Balances

/-! # Liquidity shares held

Who holds how many shares of the pair, and how many exist. The supply grows by
minting and shrinks by burning only, each time by as much as one holding, so it
stays the sum of all holdings and never runs below what is burned.
-/

namespace VeiledPool

structure Shares where
  table : Tally Holder
  supply : Nat
  /-- The supply is the sum of all holdings. -/
  whole : table.sum = supply

namespace Shares

def empty : Shares := ⟨.empty, 0, rfl⟩

def get (shares : Shares) (holder : Holder) : Nat :=
  shares.table.get holder

/-- New shares of a holder. -/
def credit (shares : Shares) (holder : Holder) (amount : Nat) : Shares where
  table := shares.table.set holder (shares.get holder + amount)
  supply := shares.supply + amount
  whole := by
    have written := shares.table.sum_set holder (shares.get holder + amount)
    have whole := shares.whole
    simp only [get] at written ⊢
    omega

/-- Shares taken from a holder who has them, and so from a supply that has them. -/
def debit (shares : Shares) (holder : Holder) (amount : Nat) (held : amount ≤ shares.get holder) :
    Shares where
  table := shares.table.set holder (shares.get holder - amount)
  supply := shares.supply - amount
  whole := by
    have written := shares.table.sum_set holder (shares.get holder - amount)
    have whole := shares.whole
    simp only [get] at written held ⊢
    omega

def mint (shares : Shares) (holder : Holder) (amount : Int) : Except Fault Shares :=
  if amount < 0 then .error (.badValue (.negative "Mint amount" amount))
  else if amount = 0 then .ok shares
  else .ok (shares.credit holder amount.toNat)

def burn (shares : Shares) (holder : Holder) (amount : Int) : Except Fault Shares :=
  if amount < 0 then .error (.badValue (.negative "Burn amount" amount))
  else if short : (shares.get holder : Int) < amount then
    .error (.badValue (.shareShortfall holder (shares.get holder) amount))
  else .ok (shares.debit holder amount.toNat (by omega))

/-- Whether the supply is the sum of all holdings. -/
def consistent (shares : Shares) : Bool :=
  shares.table.sum = shares.supply

def text (shares : Shares) : Except Fault String :=
  let size := shares.table.size
  let supply := shares.supply
  written [supply] s!"ShareTable({size} holders, supply={supply})"

end Shares

end VeiledPool
