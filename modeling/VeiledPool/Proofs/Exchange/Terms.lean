import VeiledPool.Exchange.Basic
import VeiledPool.Proofs.Curve.Fill
import VeiledPool.Proofs.Liquidity
import VeiledPool.Proofs.Pair.Side

/-! # Terms of accepted actions

For each kind of action there is one statement of what its acceptance amounts to:
every check that was passed, every amount that was computed and every effect that
is asked for. Whatever is known of an accepted action is read off its terms.
-/

namespace VeiledPool.Exchange

variable {ledger : Ledger} {rate : CommissionRate} {pair : Pair}

/-- The terms of an accepted swap. -/
structure SwapTerms (ledger : Ledger) (rate : CommissionRate) (pair : Pair) (order : SwapOrder)
    (result : SwapResult) (side : Side) (fill : Curve.Fill) : Prop where
  offered : order.offer.info.id = (pair.info side).id
  /-- The reserve already holds the offer. -/
  arrived : order.offer.amount ≤ (ledger.pool pair side).amount
  inRange : (ledger.pool pair side).amount ≤ wideMax
  /-- The price is that of the reserves without the offer. -/
  priced : Curve.fill ((ledger.pool pair side).amount - order.offer.amount)
    (ledger.pool pair side.other).amount order.offer.amount rate = .ok fill
  bounded : (SpreadBound.select order.beliefPrice order.maxSpread order.expectedReturn).check
    order.offer.amount fill.returned fill.commission fill.spread = .ok ()
  counted : pair.addVolume side order.offer.amount = .ok result.pair
  echoed : result.offer = order.offer
  returned : result.returned = ⟨pair.info side.other, fill.returned⟩
  spread : result.spread = fill.spread
  commission : result.commission = fill.commission
  effects : result.effects =
    [.transfer ⟨pair.info side.other, fill.returned⟩ (order.recipient.getD order.sender)]

/-- What a swap makes of a fill once nothing stands against it. -/
def resultOf (pair : Pair) (order : SwapOrder) (side : Side) (fill : Curve.Fill) : SwapResult :=
  let returned : Asset := ⟨pair.info side.other, fill.returned⟩
  { pair := pair.withOffer side order.offer.amount
    offer := order.offer
    returned
    spread := fill.spread
    commission := fill.commission
    effects := [.transfer returned (order.recipient.getD order.sender)] }

theorem swap_eq_ok_iff {order : SwapOrder} {result : SwapResult} :
    swap ledger rate pair order = .ok result ↔
      ∃ side fill, SwapTerms ledger rate pair order result side fill := by
  simp only [swap, bind_eq_ok, Wide.require_eq_ok_iff, Wide.sub_lift_eq_some_iff,
    Pair.sideOf_eq_ok_iff, Curve.guardedFill_eq_fill, pure_eq_ok]
  constructor
  · rintro ⟨side, offered, _, ⟨inRange, arrived, rfl⟩, fill, priced, _, bounded, next, counted, rfl⟩
    exact ⟨side, fill, offered, arrived, inRange, priced, bounded, counted, rfl, rfl, rfl, rfl, rfl⟩
  · rintro ⟨side, fill, terms⟩
    obtain ⟨next, echo, returned, spread, commission, effects⟩ := result
    obtain ⟨offered, arrived, inRange, priced, bounded, counted, rfl, rfl, rfl, rfl, rfl⟩ := terms
    exact ⟨side, offered, _, ⟨inRange, arrived, rfl⟩, fill, priced, (), bounded, next, counted, rfl⟩

theorem reserveBefore_eq_ok_iff {pool : Asset} {deposit before : Nat} :
    reserveBefore pool deposit = .ok before ↔
      if pool.info.isNative then
        pool.amount ≤ wideMax ∧ deposit ≤ pool.amount ∧ before = pool.amount - deposit
      else before = pool.amount := by
  unfold reserveBefore
  split
  · simp only [bind_eq_ok, Wide.require_eq_ok_iff, Wide.sub_lift_eq_some_iff, pure_eq_ok]
    constructor
    · rintro ⟨_, ⟨inRange, arrived, rfl⟩, rfl⟩
      exact ⟨inRange, arrived, rfl⟩
    · rintro ⟨inRange, arrived, rfl⟩
      exact ⟨_, ⟨inRange, arrived, rfl⟩, rfl⟩
  · simp [eq_comm]

theorem eq_of_reserveBefore {info : AssetInfo} {reserve deposit before : Nat}
    (computed : reserveBefore ⟨info, reserve + if info.isNative then deposit else 0⟩ deposit =
      .ok before) : before = reserve := by
  have answer := reserveBefore_eq_ok_iff.1 computed
  cases native : info.isNative <;> simp_all

structure ProvideTerms (ledger : Ledger) (pair : Pair) (order : ProvideOrder)
    (result : ProvideResult) (deposit0 deposit1 before0 before1 : Nat) : Prop where
  matched : pair.matchAssets order.assets = .ok (deposit0, deposit1)
  first : reserveBefore (ledger.pool pair .first) deposit0 = .ok before0
  second : reserveBefore (ledger.pool pair .second) deposit1 = .ok before1
  tolerated : 0 < before0 ∧ 0 < before1 →
    Slippage.check? order.tolerance deposit0 deposit1 before0 before1 = .ok ()
  minted : sharesFor deposit0 deposit1 before0 before1 ledger.totalShare = .ok result.share
  worthwhile : result.share ≠ 0
  deposits : result.deposits = (⟨pair.info .first, deposit0⟩, ⟨pair.info .second, deposit1⟩)
  effects : result.effects = collect (ledger.pool pair .first) deposit0 order.sender ++
    collect (ledger.pool pair .second) deposit1 order.sender ++
      [.mintShares order.sender result.share]

theorem provide_eq_ok_iff {order : ProvideOrder} {result : ProvideResult} :
    provide ledger pair order = .ok result ↔
      ∃ deposit0 deposit1 before0 before1,
        ProvideTerms ledger pair order result deposit0 deposit1 before0 before1 := by
  simp only [provide, Ledger.pools, bind_eq_ok, check_if_eq_ok]
  constructor
  · rintro ⟨⟨deposit0, deposit1⟩, matched, before0, first, before1, second, tolerated, share,
      minted, answered⟩
    refine ⟨deposit0, deposit1, before0, before1, ?_⟩
    split at answered
    · cases answered
    · rename_i worthwhile
      cases pure_eq_ok.1 answered
      exact ⟨matched, first, second, tolerated, minted, worthwhile, rfl, rfl⟩
  · rintro ⟨deposit0, deposit1, before0, before1, terms⟩
    refine ⟨_, terms.matched, before0, terms.first, before1, terms.second, terms.tolerated,
      result.share, terms.minted, ?_⟩
    obtain ⟨deposits, share, effects⟩ := result
    obtain ⟨-, -, -, -, -, worthwhile, rfl, listed⟩ := terms
    simp only at worthwhile listed
    rw [if_neg worthwhile, listed]
    rfl

structure WithdrawTerms (ledger : Ledger) (pair : Pair) (order : WithdrawOrder)
    (result : WithdrawResult) (amount0 amount1 : Nat) : Prop where
  positive : 0 ≤ order.amount
  first : Liquidity.withdrawal (ledger.pool pair .first).amount order.amount.toNat
    ledger.totalShare = .ok amount0
  second : Liquidity.withdrawal (ledger.pool pair .second).amount order.amount.toNat
    ledger.totalShare = .ok amount1
  refunds : result.refunds = (⟨pair.info .first, amount0⟩, ⟨pair.info .second, amount1⟩)
  burned : result.burned = order.amount
  effects : result.effects = [.burnShares order.sender order.amount,
    .transfer ⟨pair.info .first, amount0⟩ order.sender,
    .transfer ⟨pair.info .second, amount1⟩ order.sender]

theorem withdraw_eq_ok_iff {order : WithdrawOrder} {result : WithdrawResult} :
    withdraw ledger pair order = .ok result ↔
      ∃ amount0 amount1, WithdrawTerms ledger pair order result amount0 amount1 := by
  by_cases negative : order.amount < 0
  · simp only [withdraw, negative, if_true, reduceCtorEq, false_iff, not_exists]
    intro amount0 amount1 terms
    exact absurd terms.positive (Int.not_le.2 negative)
  · simp only [withdraw, negative, if_false, Ledger.pools, bind_eq_ok]
    constructor
    · rintro ⟨amount0, first, amount1, second, answered⟩
      cases pure_eq_ok.1 answered
      exact ⟨amount0, amount1, Int.not_lt.1 negative, first, second, rfl, rfl, rfl⟩
    · rintro ⟨amount0, amount1, terms⟩
      obtain ⟨refunds, burned, effects⟩ := result
      obtain ⟨positive, first, second, rfl, rfl, rfl⟩ := terms
      exact ⟨amount0, first, amount1, second, rfl⟩

theorem handle_fst_eq_accepted_iff {action : Action} {source : Entropy} {outcome : Outcome}
    {next : Pair} :
    (handle ledger rate pair action source).1 = .accepted next outcome ↔
      perform ledger rate pair action = .ok outcome ∧ next = outcome.pairAfter pair := by
  rw [handle]
  cases perform ledger rate pair action with
  | ok performed =>
    simp only [Report.accepted.injEq, Except.ok.injEq]
    constructor
    · rintro ⟨rfl, rfl⟩
      exact ⟨rfl, rfl⟩
    · rintro ⟨rfl, rfl⟩
      exact ⟨rfl, rfl⟩
  | error fault => simp

/-- An action takes no draw and feeds nothing in. -/
@[simp]
theorem handle_snd (ledger : Ledger) (rate : CommissionRate) (pair : Pair) (action : Action)
    (source : Entropy) : (handle ledger rate pair action source).2 = source := by
  rw [handle]
  cases perform ledger rate pair action <;> rfl

end VeiledPool.Exchange
