import VeiledPool.Curve.Fill
import VeiledPool.Entropy.Source
import VeiledPool.Exchange.Action
import VeiledPool.Guard.Slippage
import VeiledPool.Guard.Spread
import VeiledPool.Liquidity
import VeiledPool.Pair.Deposit

/-! # The exchange

Swaps, deposits and withdrawals of one pair. Each reads true reserves from the
ledger, prices the request, applies the caller's guards and answers with the
effects to carry out. Nothing is stored here.
-/

namespace VeiledPool.Exchange

/-- Sells an offer that the reserves already hold, so it is first taken back out
    of them. -/
def swap (ledger : Ledger) (rate : CommissionRate) (pair : Pair) (order : SwapOrder) :
    Except Fault SwapResult := do
  let offer := order.offer.amount
  let side ← pair.sideOf order.offer.info
  let offerPool := ledger.pool pair side
  let askPool := ledger.pool pair side.other
  let before ← Wide.require (.offerBeyondReserve offer offerPool.amount)
    (Wide.sub (Wide.lift offerPool.amount) (Wide.lift offer))
  let fill ← Curve.guardedFill before.toNat askPool.amount offer rate
  let bound := SpreadBound.select order.beliefPrice order.maxSpread order.expectedReturn
  bound.check offer fill.returned fill.commission fill.spread
  let returned : Asset := ⟨askPool.info, fill.returned⟩
  let recipient := order.recipient.getD order.sender
  let next ← pair.addVolume side offer
  pure {
    pair := next
    offer := order.offer
    returned
    spread := fill.spread
    commission := fill.commission
    effects := [.transfer returned recipient] }

/-- What a reserve held before a deposit: a native deposit has already arrived
    in it, a token deposit has not. -/
def reserveBefore (pool : Asset) (deposit : Nat) : Except Fault Nat :=
  if pool.info.isNative then do
    let before ← Wide.require (.depositBeyondReserve deposit pool.info.name pool.amount)
      (Wide.sub (Wide.lift pool.amount) (Wide.lift deposit))
    pure before.toNat
  else .ok pool.amount

/-- The effect that brings a deposit in; a native one has arrived by itself. -/
def collect (pool : Asset) (deposit : Nat) (sender : Holder) : List Effect :=
  if pool.info.isNative then [] else [.transferFrom ⟨pool.info, deposit⟩ sender]

/-- Shares for a deposit: the first one sets the supply, later ones follow it. -/
def sharesFor (deposit0 deposit1 pool0 pool1 totalShare : Nat) : Except Fault Nat :=
  if totalShare = 0 then Liquidity.initialShares deposit0 deposit1
  else Liquidity.additionalShares deposit0 deposit1 pool0 pool1 totalShare

/-- Deposits both assets. An empty pool has no price to deviate from. -/
def provide (ledger : Ledger) (pair : Pair) (order : ProvideOrder) :
    Except Fault ProvideResult := do
  let (deposit0, deposit1) ← pair.matchAssets order.assets
  let (pool0, pool1) := ledger.pools pair
  let before0 ← reserveBefore pool0 deposit0
  let before1 ← reserveBefore pool1 deposit1
  if 0 < before0 ∧ 0 < before1 then
    Slippage.check? order.tolerance deposit0 deposit1 before0 before1
  let share ← sharesFor deposit0 deposit1 before0 before1 ledger.totalShare
  if share = 0 then
    .error (Fault.degenerate (.worthlessDeposit deposit0 deposit1 ledger.totalShare)).raised
  else
    pure {
      deposits := (⟨pair.assets.first, deposit0⟩, ⟨pair.assets.second, deposit1⟩)
      share
      effects := collect pool0 deposit0 order.sender ++ collect pool1 deposit1 order.sender ++
        [.mintShares order.sender share] }

/-- Burns shares. Whether the sender holds them is for the ledger to say. -/
def withdraw (ledger : Ledger) (pair : Pair) (order : WithdrawOrder) :
    Except Fault WithdrawResult :=
  if order.amount < 0 then .error (.badValue (.negative "burn_amount" order.amount))
  else do
    let burned := order.amount.toNat
    let (pool0, pool1) := ledger.pools pair
    let amount0 ← Liquidity.withdrawal pool0.amount burned ledger.totalShare
    let amount1 ← Liquidity.withdrawal pool1.amount burned ledger.totalShare
    let refund0 : Asset := ⟨pool0.info, amount0⟩
    let refund1 : Asset := ⟨pool1.info, amount1⟩
    pure {
      refunds := (refund0, refund1)
      burned := order.amount
      effects := [.burnShares order.sender order.amount, .transfer refund0 order.sender,
        .transfer refund1 order.sender] }

/-- Carries out one action; a fault is passed on. -/
def perform (ledger : Ledger) (rate : CommissionRate) (pair : Pair) :
    Action → Except Fault Outcome
  | .swap order => .swap <$> swap ledger rate pair order
  | .provide order => .provide <$> provide ledger pair order
  | .withdraw order => .withdraw <$> withdraw ledger pair order
  | .unreadable fault => .error fault

/-- Carries out one action; a fault becomes a rejection. The source of draws is at hand,
    as it is for every call to a pair. -/
def handle (ledger : Ledger) (rate : CommissionRate) (pair : Pair) (action : Action)
    (source : Entropy) : Report × Entropy :=
  match perform ledger rate pair action with
  | .ok outcome => (.accepted (outcome.pairAfter pair) outcome, source)
  | .error fault => (.rejected fault, source)

end VeiledPool.Exchange
