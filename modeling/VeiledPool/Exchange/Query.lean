import VeiledPool.Curve.Fill
import VeiledPool.Curve.Quote
import VeiledPool.Entropy.Source
import VeiledPool.Ledger.Basic

/-! # Veiled queries

Observers learn about a pool through one fresh veil per query. The state of the
pool is reported figure by figure; simulations run the curve on veiled reserves.
A question about a foreign asset is refused before a draw is taken.
-/

namespace VeiledPool

namespace Veil

def coverAsset (veil : Veil) (asset : Asset) : Except Fault Asset := do
  let amount ← veil.cover asset.amount
  pure ⟨asset.info, amount⟩

def coverPools (veil : Veil) (pools : Asset × Asset) : Except Fault (Asset × Asset) := do
  let first ← veil.coverAsset pools.1
  let second ← veil.coverAsset pools.2
  pure (first, second)

end Veil

namespace Exchange

/-- What an observer sees of the pool. -/
structure PoolReport where
  assets : Asset × Asset
  totalShare : Nat
  deriving DecidableEq, Repr

/-- Reserves and share supply under one veil. -/
def reportUnder (pools : Asset × Asset) (totalShare : Int) (veil : Veil) :
    Except Fault PoolReport := do
  let assets ← veil.coverPools pools
  let totalShare ← veil.cover totalShare
  pure { assets, totalShare }

def queryPool (ledger : Ledger) (pair : Pair) (source : Entropy) :
    Except Fault PoolReport × Entropy :=
  source.observe (reportUnder (ledger.pools pair) ledger.totalShare)

/-- Runs a swap against veiled reserves. -/
def simulate (ledger : Ledger) (rate : CommissionRate) (pair : Pair) (offer : Asset)
    (source : Entropy) : Except Fault Curve.Fill × Entropy :=
  match pair.sideOf offer.info with
  | .error fault => (.error fault, source)
  | .ok side =>
    source.observe fun veil => do
      let pools ← veil.coverPools (ledger.pools pair)
      Curve.guardedFill (side.of pools).amount (side.other.of pools).amount offer.amount rate

/-- Quotes the offer for a requested amount against veiled reserves. -/
def reverseSimulate (ledger : Ledger) (rate : CommissionRate) (pair : Pair) (ask : Asset)
    (source : Entropy) : Except Fault Curve.Quote × Entropy :=
  match pair.sideOf ask.info with
  | .error fault => (.error fault, source)
  | .ok side =>
    source.observe fun veil => do
      let pools ← veil.coverPools (ledger.pools pair)
      Curve.quote (side.other.of pools).amount (side.of pools).amount ask.amount rate

end Exchange

end VeiledPool
