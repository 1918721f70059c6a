import VeiledPool.Proofs.Exchange.Product
import VeiledPool.Proofs.Ledger.Execution
import VeiledPool.Proofs.Session.Funding

/-! # Settling accepted actions

An accepted action is priced before its effects are carried out, and by then the
books have to bear them. The pair always does: what a swap pays is less than a
reserve, and refunds stay within the reserves once the shares for them were there
to be burned. All that can be missing is what the sender owes, a token deposit or
shares.
-/

namespace VeiledPool

namespace Exchange

/-- What the sender of an accepted action has to have for its effects to be carried
    out: nothing for a swap, every token deposit, the shares that are withdrawn. -/
inductive Covered (ledger : Ledger) (pair : Pair) : Action → Outcome → Prop where
  | swap (order : SwapOrder) (result : SwapResult) :
    Covered ledger pair (.swap order) (.swap result)
  | provide {order : ProvideOrder} {result : ProvideResult}
    (enough : ∀ side, (pair.info side).isNative = false →
      (side.of result.deposits).amount ≤ ledger.balance order.sender (pair.info side)) :
    Covered ledger pair (.provide order) (.provide result)
  | withdraw {order : WithdrawOrder} {result : WithdrawResult}
    (enough : order.amount ≤ ledger.books.shares.get order.sender) :
    Covered ledger pair (.withdraw order) (.withdraw result)

inductive Shortfall (ledger : Ledger) (pair : Pair) : Action → Outcome → Effect → Fault → Prop where
  | deposit {order : ProvideOrder} {result : ProvideResult} (side : Side)
    (token : (pair.info side).isNative = false)
    (short : ledger.balance order.sender (pair.info side) < (side.of result.deposits).amount) :
    Shortfall ledger pair (.provide order) (.provide result)
      (.transferFrom (side.of result.deposits) order.sender)
      (.badValue (.balanceShortfall (pair.info side).name order.sender
        (ledger.balance order.sender (pair.info side)) (-(side.of result.deposits).amount)))
  | shares {order : WithdrawOrder} {result : WithdrawResult}
    (short : (ledger.books.shares.get order.sender : Int) < order.amount) :
    Shortfall ledger pair (.withdraw order) (.withdraw result)
      (.burnShares order.sender order.amount)
      (.badValue (.shareShortfall order.sender (ledger.books.shares.get order.sender)
        order.amount))

theorem Shortfall.not_covered {ledger : Ledger} {pair : Pair} {action : Action}
    {outcome : Outcome} {effect : Effect} {fault : Fault}
    (shortfall : Shortfall ledger pair action outcome effect fault) :
    ¬ Covered ledger pair action outcome := by
  intro covered
  cases shortfall with
  | deposit side token short =>
    cases covered with
    | provide enough => exact Nat.not_le.2 short (enough side token)
  | shares short =>
    cases covered with
    | withdraw enough => exact Int.not_le.2 short enough

/-- Either the sender has what is due and the effects are carried out, or the sender
    has too little and that is why they are not. -/
def Settled (ledger : Ledger) (pair : Pair) (action : Action) (outcome : Outcome) : Prop :=
  (Covered ledger pair action outcome ∧
    ∃ books, ledger.books.carryAll ledger.account outcome.effects = .ok books) ∨
  ∃ effect fault,
    Books.FirstFailure ledger.account ledger.books outcome.effects effect fault ∧
      Shortfall ledger pair action outcome effect fault

theorem balance_collect_of_ne {account sender : Holder} {books after : Books} {pool : Asset}
    {deposit : Nat}
    (carried : books.carryAll account (collect pool deposit sender) = .ok after) (holder : Holder)
    {info : AssetInfo} (apart : info.id ≠ pool.info.id) :
    after.balances.get holder info = books.balances.get holder info := by
  have moved := Books.balance_carryAll carried holder info
  rw [balanceChange_collect_eq_flow, Balances.flow_of_ne _ _ _ _ apart, ite_self] at moved
  omega

theorem collect_cases (books : Books) (account sender : Holder) (pool : Asset) (deposit : Nat) :
    ((pool.info.isNative = false → deposit ≤ books.balances.get sender pool.info) ∧
      ∃ after, books.carryAll account (collect pool deposit sender) = .ok after) ∨
    (pool.info.isNative = false ∧ books.balances.get sender pool.info < deposit ∧
      Books.FirstFailure account books (collect pool deposit sender)
        (.transferFrom ⟨pool.info, deposit⟩ sender)
        (.badValue (.balanceShortfall pool.info.name sender
          (books.balances.get sender pool.info) (-deposit)))) := by
  cases native : pool.info.isNative with
  | true =>
    simp only [collect, native, if_true]
    left
    constructor
    · intro token
      cases token
    · exact ⟨books, rfl⟩
  | false =>
    simp only [collect, native, Bool.false_eq_true, if_false, Books.carryAll_singleton]
    by_cases enough : deposit ≤ books.balances.get sender pool.info
    · exact .inl ⟨fun _ => enough,
        Books.exists_carry_transferFrom ⟨pool.info, deposit⟩ account enough⟩
    · have short := Nat.not_le.1 enough
      exact .inr ⟨trivial, short, .here (.uncollectable short)⟩

variable {ledger : Ledger} {rate : CommissionRate} {pair : Pair}

theorem swap_settled {order : SwapOrder} {result : SwapResult}
    (accepted : swap ledger rate pair order = .ok result) :
    Settled ledger pair (.swap order) (.swap result) :=
  .inl ⟨.swap order result, swap_applies accepted⟩

/-- The two deposits are collected one after the other, and collecting the first one
    does not touch what the sender has of the second. -/
theorem provide_settled {order : ProvideOrder} {result : ProvideResult}
    (accepted : provide ledger pair order = .ok result) :
    Settled ledger pair (.provide order) (.provide result) := by
  obtain ⟨deposit0, deposit1, before0, before1, terms⟩ := provide_eq_ok_iff.1 accepted
  have due (side : Side) :
      side.of result.deposits = ⟨pair.info side, side.of (deposit0, deposit1)⟩ := by
    rw [terms.deposits]
    cases side <;> rfl
  rcases collect_cases ledger.books ledger.account order.sender (ledger.pool pair .first)
    deposit0 with ⟨paid0, middle, first⟩ | ⟨token, short, fails⟩
  · have untouched : middle.balances.get order.sender (pair.info .second) =
        ledger.balance order.sender (pair.info .second) :=
      balance_collect_of_ne first order.sender pair.info_first_ne_second.symm
    rcases collect_cases middle ledger.account order.sender (ledger.pool pair .second)
      deposit1 with ⟨paid1, collected, second⟩ | ⟨token, short, fails⟩
    · obtain ⟨after, minted⟩ := Books.exists_carry_mintShares collected ledger.account
        order.sender (Int.natCast_nonneg result.share)
      refine .inl ⟨.provide ?_, after, ?_⟩
      · intro side
        rw [due side]
        cases side with
        | first => exact paid0
        | second => exact untouched ▸ paid1
      · rw [Outcome.effects, terms.effects, Books.carryAll_append, Books.carryAll_append]
        exact bind_eq_ok.2 ⟨collected, bind_eq_ok.2 ⟨middle, first, second⟩,
          Books.carryAll_singleton _ ▸ minted⟩
    · have lacking : ledger.balance order.sender (pair.info .second) < deposit1 :=
        untouched ▸ short
      refine .inr ⟨_, _, ?_, .deposit .second token (due .second ▸ lacking)⟩
      rw [Outcome.effects, terms.effects, due .second, ← untouched]
      exact ((Books.carryAll_eq_ok_iff.1 first).append_fails fails).append _
  · refine .inr ⟨_, _, ?_, .deposit .first token (due .first ▸ short)⟩
    rw [Outcome.effects, terms.effects, due .first]
    exact (fails.append _).append _

theorem withdraw_settled {order : WithdrawOrder} {result : WithdrawResult}
    (accepted : withdraw ledger pair order = .ok result) :
    Settled ledger pair (.withdraw order) (.withdraw result) := by
  obtain ⟨amount0, amount1, terms⟩ := withdraw_eq_ok_iff.1 accepted
  by_cases enough : order.amount ≤ ledger.books.shares.get order.sender
  · refine .inl ⟨.withdraw enough, ?_⟩
    have part : order.amount.toNat ≤ ledger.totalShare := by
      have supplied := ledger.books.shares.get_le_supply order.sender
      simp only [Ledger.totalShare]
      omega
    rw [Outcome.effects, terms.effects]
    exact Books.exists_carryAll_payout pair.info_first_ne_second.symm terms.positive enough
      (Liquidity.le_of_withdrawal terms.first part) (Liquidity.le_of_withdrawal terms.second part)
  · refine .inr ⟨_, _, ?_, .shares (Int.not_le.1 enough)⟩
    rw [Outcome.effects, terms.effects]
    exact .here (.overburned (Int.not_le.1 enough))

theorem perform_settled {action : Action} {outcome : Outcome}
    (accepted : perform ledger rate pair action = .ok outcome) :
    Settled ledger pair action outcome := by
  cases action with
  | swap order =>
    obtain ⟨result, swapped, rfl⟩ := map_eq_ok.1 accepted
    exact swap_settled swapped
  | provide order =>
    obtain ⟨result, provided, rfl⟩ := map_eq_ok.1 accepted
    exact provide_settled provided
  | withdraw order =>
    obtain ⟨result, withdrawn, rfl⟩ := map_eq_ok.1 accepted
    exact withdraw_settled withdrawn
  | unreadable fault => cases accepted

/-- The effects of an accepted action can be applied exactly if the sender has what is
    due. For a swap that is nothing, for a deposit every token amount, for a withdrawal
    the shares. If they cannot, the fault is that of an effect which takes too much from
    the sender; no payment of the pair ever fails. -/
theorem settles_unless_sender_short (ledger : Ledger) (rate : CommissionRate) (pair next : Pair)
    (action : Action) (outcome : Outcome) (source : Entropy)
    (accepted : (handle ledger rate pair action source).1 = .accepted next outcome) :
    ((∃ after, ledger.applyEffects outcome.effects = .ok after) ↔
      Covered ledger pair action outcome) ∧
    ∀ fault, ledger.applyEffects outcome.effects = .error fault → ∃ effect,
      Books.FirstFailure ledger.account ledger.books outcome.effects effect fault ∧
        Shortfall ledger pair action outcome effect fault := by
  have performed := (handle_fst_eq_accepted_iff.1 accepted).1
  simp only [Ledger.applyEffects_eq_ok_iff, Ledger.applyEffects_eq_error_iff]
  rcases perform_settled performed with
    ⟨covered, books, carried⟩ | ⟨effect, cause, fails, short⟩
  · constructor
    · exact ⟨fun _ => covered, fun _ => ⟨_, books, carried, rfl⟩⟩
    · intro fault failed
      cases carried.symm.trans failed
  · have stopped := Books.carryAll_eq_error_iff.2 ⟨effect, fails⟩
    constructor
    · constructor
      · rintro ⟨_, books, carried, -⟩
        cases stopped.symm.trans carried
      · intro covered
        exact absurd covered short.not_covered
    · intro fault failed
      cases stopped.symm.trans failed
      exact ⟨effect, fails, short⟩

/-- A deposit by the trader of the example, who lacks one token for it. -/
def sampleDeposit : Action :=
  .provide { sender := "trader", assets := [Session.sampleAsset .second 701,
    Session.sampleAsset .first 100] }

def sampleDeposited : Outcome :=
  .provide {
    deposits := (Session.sampleAsset .first 100, Session.sampleAsset .second 701)
    share := 222
    effects := [.transferFrom (Session.sampleAsset .second 701) "trader",
      .mintShares "trader" 222] }

theorem settles_unless_sender_short_sample :
    (handle Session.sampleFunded.ledger .standard Session.sample.pair sampleDeposit
        (.script [] 0)).1 = .accepted Session.sample.pair sampleDeposited ∧
      ∃ effect fault,
        Session.sampleFunded.ledger.applyEffects sampleDeposited.effects = .error fault ∧
        Shortfall Session.sampleFunded.ledger Session.sample.pair sampleDeposit sampleDeposited
          effect fault := by
  have accepted : (handle Session.sampleFunded.ledger .standard Session.sample.pair sampleDeposit
      (.script [] 0)).1 = .accepted Session.sample.pair sampleDeposited := by decide +kernel
  obtain ⟨applies, fails⟩ := settles_unless_sender_short _ _ _ _ _ _ _ accepted
  refine ⟨accepted, ?_⟩
  cases applied : Session.sampleFunded.ledger.applyEffects sampleDeposited.effects with
  | ok after =>
    -- The token side is the one that is not covered.
    cases applies.1 ⟨after, applied⟩ with
    | provide enough => exact absurd (enough .second rfl) (by decide +kernel)
  | error fault =>
    obtain ⟨effect, -, short⟩ := fails fault applied
    exact ⟨effect, fault, rfl, short⟩

end Exchange

end VeiledPool
