import Mathlib.Algebra.BigOperators.Group.List.Basic
import VeiledPool.Proofs.Exchange.Terms
import VeiledPool.Proofs.Ledger.Execution
import VeiledPool.Proofs.Session.Turn

/-! # What settled actions change

A settled action moves assets between the pair and one holder, and changes the
shares of its sender. Balances and holdings that take no part stay as they are,
and so do those of a holder who is the pair itself, since nothing moves then.
-/

namespace VeiledPool

namespace Balances

/-- What moving assets from one holder to another adds to a balance. -/
def passed (sender recipient : Holder) (assets : List Asset) (holder : Holder)
    (asset : AssetId) : Int :=
  (assets.map fun moved => flow sender recipient moved.info.id moved.amount holder asset).sum

theorem passed_eq_zero {sender recipient holder : Holder} {assets : List Asset} {asset : AssetId}
    (idle : (holder ≠ sender ∧ holder ≠ recipient) ∨ (∀ moved ∈ assets, asset ≠ moved.info.id) ∨
      sender = recipient) : passed sender recipient assets holder asset = 0 := by
  apply List.sum_eq_zero
  intro amount member
  obtain ⟨moved, among, rfl⟩ := List.mem_map.1 member
  rcases idle with ⟨noSender, noRecipient⟩ | apart | rfl
  · simp [flow, noSender, noRecipient]
  · exact flow_of_ne _ _ _ _ (apart moved among)
  · simp [flow]

end Balances

namespace Effect

variable (account other holder : Holder) (asset : AssetId) (assets : List Asset)

theorem balanceChange_transfers :
    ((assets.map (transfer · other)).map (balanceChange account holder asset)).sum =
      Balances.passed account other assets holder asset := by
  rw [List.map_map]
  rfl

theorem balanceChange_transferFroms :
    ((assets.map (transferFrom · other)).map (balanceChange account holder asset)).sum =
      Balances.passed other account assets holder asset := by
  rw [List.map_map]
  rfl

theorem shareChange_transferFroms :
    ((assets.map (transferFrom · other)).map (shareChange holder)).sum = 0 := by
  simp [Function.comp_def, shareChange, List.map_const']

theorem supplyChange_transferFroms :
    ((assets.map (transferFrom · other)).map supplyChange).sum = 0 := by
  simp [Function.comp_def, supplyChange, List.map_const']

end Effect

namespace Exchange

/-- All that there is between a ledger and the one after: assets went from `payer` to
    `payee`, and the shares of `holder` changed. -/
structure Moved (before after : Ledger) (payer payee : Holder) (assets : List Asset)
    (holder : Holder) (minted : Int) : Prop where
  account : after.account = before.account
  balances : ∀ other asset, (after.balance other asset : Int) =
    before.balance other asset + Balances.passed payer payee assets other asset.id
  shares : ∀ other, (after.books.shares.get other : Int) =
    before.books.shares.get other + if other = holder then minted else 0
  supply : (after.totalShare : Int) = before.totalShare + minted

theorem Moved.untouched {before after : Ledger} {payer payee holder other : Holder}
    {assets : List Asset} {minted : Int} {asset : AssetInfo}
    (moved : Moved before after payer payee assets holder minted)
    (idle : (other ≠ payer ∧ other ≠ payee) ∨ (∀ moved ∈ assets, asset.id ≠ moved.info.id) ∨
      payer = payee) : after.balance other asset = before.balance other asset := by
  have change := moved.balances other asset
  rw [Balances.passed_eq_zero idle] at change
  omega

/-- The part of a deposit that is not sent along with the request. -/
def tokens (deposits : Asset × Asset) : List Asset :=
  [deposits.1, deposits.2].filter fun deposit => !deposit.info.isNative

/-- What each kind of action changes. The assets that move are those of the result, and
    the effects ask for nothing else. -/
inductive Footprint (before : Ledger) (pair : Pair) (after : Ledger) : Action → Outcome → Prop where
  | swap {order : SwapOrder} {result : SwapResult} (side : Side)
    (offered : order.offer.info.id = (pair.info side).id)
    (returned : result.returned.info = pair.info side.other)
    (effects : result.effects = [.transfer result.returned (order.recipient.getD order.sender)])
    (moved : Moved before after before.account (order.recipient.getD order.sender)
      [result.returned] order.sender 0) :
    Footprint before pair after (.swap order) (.swap result)
  | provide {order : ProvideOrder} {result : ProvideResult}
    (deposits : ∀ side : Side, (side.of result.deposits).info = pair.info side ∧
      1 ≤ (side.of result.deposits).amount)
    (matched : pair.matchAssets order.assets =
      .ok (result.deposits.1.amount, result.deposits.2.amount))
    (share : 1 ≤ result.share)
    (effects : result.effects = (tokens result.deposits).map (.transferFrom · order.sender) ++
      [.mintShares order.sender result.share])
    (moved : Moved before after order.sender before.account (tokens result.deposits)
      order.sender result.share) :
    Footprint before pair after (.provide order) (.provide result)
  | withdraw {order : WithdrawOrder} {result : WithdrawResult}
    (refunds : ∀ side : Side, (side.of result.refunds).info = pair.info side)
    (positive : 0 ≤ order.amount)
    (burned : result.burned = order.amount)
    (effects : result.effects = .burnShares order.sender order.amount ::
      [result.refunds.1, result.refunds.2].map (.transfer · order.sender))
    (moved : Moved before after before.account order.sender
      [result.refunds.1, result.refunds.2] order.sender (-order.amount)) :
    Footprint before pair after (.withdraw order) (.withdraw result)

variable {ledger after : Ledger} {rate : CommissionRate} {pair : Pair}

theorem moved_of_effects {effects : List Effect} {payer payee holder : Holder}
    {assets : List Asset} {minted : Int}
    (applied : ledger.applyEffects effects = .ok after)
    (balances : ∀ other asset, (effects.map (Effect.balanceChange ledger.account other asset)).sum =
      Balances.passed payer payee assets other asset)
    (held : ∀ other, (effects.map (Effect.shareChange other)).sum =
      if other = holder then minted else 0)
    (supplied : (effects.map Effect.supplyChange).sum = minted) :
    Moved ledger after payer payee assets holder minted := by
  obtain ⟨books, carried, rfl⟩ := Ledger.applyEffects_eq_ok_iff.1 applied
  constructor
  case account => rfl
  case balances =>
    intro other asset
    rw [← balances]
    exact Books.balance_carryAll carried other asset
  case shares =>
    intro other
    rw [← held]
    exact Books.shares_carryAll carried other
  case supply =>
    rw [← supplied]
    exact Books.supply_carryAll carried

theorem swap_footprint {order : SwapOrder} {result : SwapResult}
    (accepted : swap ledger rate pair order = .ok result)
    (applied : ledger.applyEffects result.effects = .ok after) :
    Footprint ledger pair after (.swap order) (.swap result) := by
  obtain ⟨side, fill, terms⟩ := swap_eq_ok_iff.1 accepted
  have effects : result.effects =
      [.transfer result.returned (order.recipient.getD order.sender)] := by
    rw [terms.effects, terms.returned]
  refine .swap side terms.offered (by rw [terms.returned]) effects ?_
  rw [effects] at applied
  apply moved_of_effects applied
  · intro other asset
    exact Effect.balanceChange_transfers _ _ _ _ [result.returned]
  · intro other
    simp [Effect.shareChange]
  · simp [Effect.supplyChange]

/-- Whatever is worth a share has something on both sides. -/
theorem deposits_pos_of_sharesFor {deposit0 deposit1 pool0 pool1 totalShare share : Nat}
    (minted : sharesFor deposit0 deposit1 pool0 pool1 totalShare = .ok share)
    (worthwhile : share ≠ 0) (side : Side) : 1 ≤ side.of (deposit0, deposit1) := by
  have positive : 0 < share := Nat.pos_of_ne_zero worthwhile
  rw [sharesFor] at minted
  split at minted
  · have product : 0 < deposit0 * deposit1 :=
      Nat.lt_of_lt_of_le (Nat.mul_pos positive positive) (Liquidity.sq_le_of_initialShares minted)
    cases side with
    | first => exact Nat.pos_of_mul_pos_right product
    | second => exact Nat.pos_of_mul_pos_left product
  · obtain ⟨funded0, funded1⟩ := Liquidity.pools_pos_of_additionalShares minted
    have funded : 0 < side.of (pool0, pool1) := by
      cases side with
      | first => exact funded0
      | second => exact funded1
    exact Nat.pos_of_mul_pos_right (Nat.lt_of_lt_of_le (Nat.mul_pos positive funded)
      (Liquidity.mul_le_of_additionalShares minted side))

theorem collect_eq_map_filter (pool : Asset) (deposit : Nat) (sender : Holder) :
    collect pool deposit sender =
      (([⟨pool.info, deposit⟩] : List Asset).filter fun deposit => !deposit.info.isNative).map
        (.transferFrom · sender) := by
  cases native : pool.info.isNative <;> simp [collect, native]

theorem provide_footprint {order : ProvideOrder} {result : ProvideResult}
    (accepted : provide ledger pair order = .ok result)
    (applied : ledger.applyEffects result.effects = .ok after) :
    Footprint ledger pair after (.provide order) (.provide result) := by
  obtain ⟨deposit0, deposit1, before0, before1, terms⟩ := provide_eq_ok_iff.1 accepted
  have effects : result.effects = (tokens result.deposits).map (.transferFrom · order.sender) ++
      [.mintShares order.sender result.share] := by
    rw [terms.effects, terms.deposits, collect_eq_map_filter, collect_eq_map_filter,
      ← List.map_append, ← List.filter_append]
    rfl
  refine .provide ?_ ?_ (Nat.pos_of_ne_zero terms.worthwhile) effects ?_
  · have worth := deposits_pos_of_sharesFor terms.minted terms.worthwhile
    intro side
    rw [terms.deposits]
    cases side with
    | first => exact ⟨rfl, worth .first⟩
    | second => exact ⟨rfl, worth .second⟩
  · rw [terms.deposits]
    exact terms.matched
  · rw [effects] at applied
    apply moved_of_effects applied
    · intro other asset
      rw [List.map_append, List.sum_append, Effect.balanceChange_transferFroms]
      simp [Effect.balanceChange]
    · intro other
      rw [List.map_append, List.sum_append, Effect.shareChange_transferFroms]
      simp [Effect.shareChange]
    · rw [List.map_append, List.sum_append, Effect.supplyChange_transferFroms]
      simp [Effect.supplyChange]

theorem withdraw_footprint {order : WithdrawOrder} {result : WithdrawResult}
    (accepted : withdraw ledger pair order = .ok result)
    (applied : ledger.applyEffects result.effects = .ok after) :
    Footprint ledger pair after (.withdraw order) (.withdraw result) := by
  obtain ⟨amount0, amount1, terms⟩ := withdraw_eq_ok_iff.1 accepted
  have effects : result.effects = .burnShares order.sender order.amount ::
      [result.refunds.1, result.refunds.2].map (.transfer · order.sender) := by
    rw [terms.effects, terms.refunds]
    rfl
  refine .withdraw ?_ terms.positive terms.burned effects ?_
  · intro side
    rw [terms.refunds]
    cases side <;> rfl
  · rw [effects] at applied
    apply moved_of_effects applied
    · intro other asset
      rw [List.map_cons, List.sum_cons, Effect.balanceChange_transfers]
      simp [Effect.balanceChange]
    · intro other
      by_cases here : other = order.sender <;> simp [Effect.shareChange, here]
    · simp [Effect.supplyChange]

/-- A settled action leaves exactly its footprint. No balance and no holding changes but
    those of the assets and holders that the result names, by the amounts that it names,
    and the effects that brought this about are listed one by one. -/
theorem settled_leaves_footprint (ledger after : Ledger) (rate : CommissionRate)
    (pair next : Pair) (action : Action) (outcome : Outcome) (source : Entropy)
    (accepted : (handle ledger rate pair action source).1 = .accepted next outcome)
    (applied : ledger.applyEffects outcome.effects = .ok after) :
    Footprint ledger pair after action outcome := by
  have performed := (handle_fst_eq_accepted_iff.1 accepted).1
  cases action with
  | swap order =>
    obtain ⟨result, swapped, rfl⟩ := map_eq_ok.1 performed
    exact swap_footprint swapped applied
  | provide order =>
    obtain ⟨result, provided, rfl⟩ := map_eq_ok.1 performed
    exact provide_footprint provided applied
  | withdraw order =>
    obtain ⟨result, withdrawn, rfl⟩ := map_eq_ok.1 performed
    exact withdraw_footprint withdrawn applied
  | unreadable fault => cases performed

/-- The provider of the example takes out a quarter. -/
def sampleExit : Action :=
  .withdraw { sender := "provider", amount := 500 }

def sampleRefund : WithdrawResult where
  refunds := (Session.sampleAsset .first 250, Session.sampleAsset .second 1000)
  burned := 500
  effects := [.burnShares "provider" 500, .transfer (Session.sampleAsset .first 250) "provider",
    .transfer (Session.sampleAsset .second 1000) "provider"]

theorem settled_leaves_footprint_sample :
    (handle Session.sampleFunded.ledger .standard Session.sample.pair sampleExit
        (.script [] 0)).1 = .accepted Session.sample.pair (.withdraw sampleRefund) ∧
      ∃ after, Session.sampleFunded.ledger.applyEffects sampleRefund.effects = .ok after ∧
        Footprint Session.sampleFunded.ledger Session.sample.pair after sampleExit
          (.withdraw sampleRefund) ∧
        (after.totalShare : Int) = 1500 := by
  have accepted : (handle Session.sampleFunded.ledger .standard Session.sample.pair sampleExit
      (.script [] 0)).1 = .accepted Session.sample.pair (.withdraw sampleRefund) := by decide +kernel
  have carried : (Session.sampleFunded.ledger.applyEffects sampleRefund.effects).isOk = true := by
    decide +kernel
  refine ⟨accepted, ?_⟩
  cases applied : Session.sampleFunded.ledger.applyEffects sampleRefund.effects with
  | error fault =>
    rw [applied] at carried
    cases carried
  | ok after =>
    have footprint := settled_leaves_footprint _ after _ _ _ _ _ _ accepted applied
    refine ⟨after, rfl, footprint, ?_⟩
    cases footprint with
    | withdraw _ _ _ _ moved =>
      rw [moved.supply]
      decide +kernel

end Exchange

end VeiledPool
