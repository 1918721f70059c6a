import VeiledPool.Proofs.Exchange.Terms
import VeiledPool.Proofs.Session.Funding

/-! # What a turn amounts to

A turn is one of four things: funds for the pair and nothing else, a swap, a
deposit or a withdrawal. Each is described by figures alone, the two reserves and
the supply of shares before and after. `Session.passage` is the one place where
an action, its funds and its effects are put together; whatever holds along runs
is read off the figures.
-/

namespace VeiledPool.Session

/-- The same pair at a later time. -/
structure Later (before after : Session) : Prop where
  account : after.ledger.account = before.ledger.account
  assets : after.pair.assets = before.pair.assets

/-- The pair received funds at most. -/
structure Donated (before after : Session) : Prop extends Later before after where
  shares : after.ledger.books.shares = before.ledger.books.shares
  reserves : ∀ side, before.reserve side ≤ after.reserve side

/-- A swap was done. The price is that of the reserves before the turn. -/
structure Swapped (before : Session) (order : SwapOrder) (after : Session) (side : Side)
    (fill : Curve.Fill) : Prop extends Later before after where
  shares : after.ledger.books.shares = before.ledger.books.shares
  sold : order.offer.info.id = (before.pair.info side).id
  priced : Curve.fill (before.reserve side) (before.reserve side.other) order.offer.amount
    before.rate = .ok fill
  offered : after.reserve side = before.reserve side + order.offer.amount
  /-- What is paid to the pair itself stays. -/
  paid : after.reserve side.other + (if order.recipient.getD order.sender = before.ledger.account
    then 0 else fill.returned) = before.reserve side.other

structure Provided (before : Session) (result : ProvideResult) (after : Session) :
    Prop extends Later before after where
  minted : Exchange.sharesFor result.deposits.1.amount result.deposits.2.amount
    (before.reserve .first) (before.reserve .second) before.supply = .ok result.share
  worthwhile : result.share ≠ 0
  deposited : ∀ side, after.reserve side = before.reserve side + (side.of result.deposits).amount
  issued : after.supply = before.supply + result.share

structure Withdrawn (before : Session) (order : WithdrawOrder) (result : WithdrawResult)
    (after : Session) : Prop extends Later before after where
  positive : 0 ≤ order.amount
  paid : ∀ side, Liquidity.withdrawal (before.reserve side) order.amount.toNat before.supply =
    .ok (side.of result.refunds).amount
  refunded : ∀ side, after.reserve side + (side.of result.refunds).amount = before.reserve side
  received : ∀ side, after.ledger.balance order.sender (before.pair.info side) =
    before.ledger.balance order.sender (before.pair.info side) +
      (side.of result.refunds).amount
  burned : after.supply + order.amount.toNat = before.supply

variable {session : Session} {books after : Books}

theorem reserve_withBooks (session : Session) (books : Books) (side : Side) :
    (session.withBooks books).reserve side =
      books.balances.get session.ledger.account (session.pair.info side) := rfl

theorem Donated.refl (session : Session) : Donated session session :=
  ⟨⟨rfl, rfl⟩, rfl, fun _ => le_rfl⟩

theorem donated_withBooks (shares : books.shares = session.ledger.books.shares)
    (grown : ∀ asset, session.ledger.books.balances.get session.ledger.account asset ≤
      books.balances.get session.ledger.account asset) :
    Donated session (session.withBooks books) where
  account := rfl
  assets := rfl
  shares := shares
  reserves side := grown (session.pair.info side)

/-- Funds that came in stay as a donation if the action goes no further. -/
theorem donated_of_funded {funds : List (Holder × Asset)}
    (funded : session.ledger.books.carryAll session.ledger.account
      (funds.map fun fund => .transferFrom fund.2 fund.1) = .ok books)
    (apart : ∀ fund ∈ funds, fund.1 ≠ session.ledger.account) :
    Donated session (session.withBooks books) := by
  apply donated_withBooks (Books.shares_funded funded)
  intro asset
  rw [Books.balance_funded funded apart]
  exact Nat.le_add_right _ _

theorem donated_mint (session : Session) (holder : Holder) (asset : Asset) :
    Donated session (session.step (.mint holder asset)).2 := by
  rw [step_mint, Ledger.mint]
  cases added : session.ledger.books.balances.add holder asset.info asset.amount with
  | error fault => exact .refl session
  | ok balances =>
    apply @donated_withBooks session ⟨balances, _⟩ rfl
    intro info
    have credited := Balances.get_add added session.ledger.account info
    simp only
    split at credited <;> omega

theorem donated_receive (session : Session) (sender : Holder) (asset : Asset) :
    Donated session (session.step (.receive sender asset)).2 := by
  obtain ⟨books, carried, answered⟩ | ⟨cause, refused⟩ := step_receive session sender asset
  · rw [answered]
    obtain ⟨balances, moved, same⟩ := bind_eq_ok.1 carried
    cases pure_eq_ok.1 same
    apply @donated_withBooks session ⟨balances, _⟩ rfl
    intro info
    have credited := Balances.get_transfer moved session.ledger.account info
    -- A transfer from the pair to itself adds nothing, any other one the amount.
    simp only [Balances.flow, if_true] at credited ⊢
    split at credited <;> [split at credited; skip] <;> omega
  · rw [refused]
    exact .refl session

theorem reserve_later {pair : Pair} (same : pair.assets = session.pair.assets) (side : Side) :
    Session.reserve { session.withBooks after with pair } side =
      after.balances.get session.ledger.account (session.pair.info side) := by
  simp only [reserve, Ledger.pool, Ledger.reserve, Ledger.balance, Pair.info, same,
    withBooks_ledger]

theorem swapped {order : SwapOrder} {result : SwapResult}
    (apart : order.sender ≠ session.ledger.account)
    (funded : session.ledger.books.carryAll session.ledger.account (Action.swap order).funding =
      .ok books)
    (accepted : Exchange.swap { session.ledger with books } session.rate session.pair order =
      .ok result)
    (applied : books.carryAll session.ledger.account result.effects = .ok after) :
    ∃ side fill,
      Swapped session order { session.withBooks after with pair := result.pair } side fill := by
  obtain ⟨side, fill, terms⟩ := Exchange.swap_eq_ok_iff.1 accepted
  have foreign : (Action.swap order).sender? ≠ some session.ledger.account :=
    Option.some_inj.not.2 apart
  have held (other : Side) := Books.balance_funded funded
    (fun _ member => Action.funds_apart foreign member) (session.pair.info other)
  have offerSide : books.balances.get session.ledger.account (session.pair.info side) =
      session.reserve side + order.offer.amount := by
    rw [held, Action.arrived_swap, if_pos terms.offered.symm]
    rfl
  have askSide : books.balances.get session.ledger.account (session.pair.info side.other) =
      session.reserve side.other := by
    rw [held, Action.arrived_swap, terms.offered,
      if_neg (session.pair.info_id_ne_other side).symm]
    rfl
  have sameAssets := Pair.addVolume_assets terms.counted
  rw [terms.effects] at applied
  have moved (other : Side) := Books.balance_carryAll applied session.ledger.account
    (session.pair.info other)
  obtain ⟨paid, carried, done⟩ := Books.carryAll_cons_eq_ok.1 applied
  cases Books.carryAll_nil_eq_ok.1 done
  have shares : after.shares = session.ledger.books.shares :=
    (Books.shares_transfer carried).trans (Books.shares_funded funded)
  refine ⟨side, fill, {
    account := rfl
    assets := sameAssets
    shares
    sold := terms.offered
    priced := ?priced
    offered := ?offered
    paid := ?paid }⟩
  case priced =>
    have priced := terms.priced
    simp only [Ledger.pool, Ledger.reserve, Ledger.balance, offerSide, askSide,
      Nat.add_sub_cancel] at priced
    exact priced
  case offered =>
    have offerMoved := moved side
    simp only [List.map_cons, List.map_nil, List.sum_cons, List.sum_nil, Effect.balanceChange,
      Balances.flow_of_ne _ _ _ _ (session.pair.info_id_ne_other side), offerSide] at offerMoved
    rw [reserve_later sameAssets]
    omega
  case paid =>
    have askMoved := moved side.other
    simp only [List.map_cons, List.map_nil, List.sum_cons, List.sum_nil, Effect.balanceChange,
      Balances.flow_self, if_true, askSide] at askMoved
    rw [reserve_later sameAssets]
    by_cases toPair : order.recipient.getD order.sender = session.ledger.account
    · simp only [toPair, if_true] at askMoved ⊢
      omega
    · simp only [toPair, Ne.symm toPair, if_false] at askMoved ⊢
      omega

theorem provided {order : ProvideOrder} {result : ProvideResult}
    (apart : order.sender ≠ session.ledger.account)
    (funded : session.ledger.books.carryAll session.ledger.account
      (Action.provide order).funding = .ok books)
    (accepted : Exchange.provide { session.ledger with books } session.pair order = .ok result)
    (applied : books.carryAll session.ledger.account result.effects = .ok after) :
    Provided session result (session.withBooks after) := by
  obtain ⟨deposit0, deposit1, before0, before1, terms⟩ := Exchange.provide_eq_ok_iff.1 accepted
  have foreign : (Action.provide order).sender? ≠ some session.ledger.account :=
    Option.some_inj.not.2 apart
  have held (side : Side) : books.balances.get session.ledger.account (session.pair.info side) =
      session.reserve side +
        if (session.pair.info side).isNative then side.of (deposit0, deposit1) else 0 := by
    rw [Books.balance_funded funded (fun _ member => Action.funds_apart foreign member),
      Action.arrived_provide terms.matched]
    rfl
  have moved (side : Side) := Books.balance_carryAll applied session.ledger.account
    (session.pair.info side)
  have distinct := session.pair.info_first_ne_second
  have sameShares := Books.shares_funded funded
  refine {
    account := rfl
    assets := rfl
    minted := ?minted
    worthwhile := terms.worthwhile
    deposited := ?deposited
    issued := ?issued }
  case minted =>
    have first := terms.first
    have second := terms.second
    simp only [Ledger.pool, Ledger.reserve, Ledger.balance, held, Side.of_first] at first
    simp only [Ledger.pool, Ledger.reserve, Ledger.balance, held, Side.of_second] at second
    have minted := terms.minted
    rw [Exchange.eq_of_reserveBefore first, Exchange.eq_of_reserveBefore second] at minted
    rw [terms.deposits]
    simpa [supply, Ledger.totalShare, sameShares] using minted
  case deposited =>
    intro side
    have sideMoved := moved side
    simp only [terms.effects, List.map_append, List.sum_append, List.map_cons, List.map_nil,
      List.sum_cons, List.sum_nil, Exchange.balanceChange_collect apart, Effect.balanceChange,
      held, Ledger.pool] at sideMoved
    rw [reserve_withBooks, terms.deposits]
    cases side <;> simp only [distinct, distinct.symm, false_and, if_false, true_and,
      Side.of_first, Side.of_second] at sideMoved ⊢
    -- Either way the side gains the deposit once, on arrival or by collection.
    · cases native : (session.pair.info .first).isNative <;> simp [native] at sideMoved <;> omega
    · cases native : (session.pair.info .second).isNative <;> simp [native] at sideMoved <;> omega
  case issued =>
    have issued := Books.supply_carryAll applied
    simp only [terms.effects, List.map_append, List.sum_append, List.map_cons, List.map_nil,
      List.sum_cons, List.sum_nil, Exchange.supplyChange_collect, Effect.supplyChange,
      sameShares] at issued
    show after.shares.supply = session.ledger.books.shares.supply + _
    omega

theorem withdrawn {order : WithdrawOrder} {result : WithdrawResult}
    (apart : order.sender ≠ session.ledger.account)
    (accepted : Exchange.withdraw session.ledger session.pair order = .ok result)
    (applied : session.ledger.books.carryAll session.ledger.account result.effects = .ok after) :
    Withdrawn session order result (session.withBooks after) := by
  obtain ⟨amount0, amount1, terms⟩ := Exchange.withdraw_eq_ok_iff.1 accepted
  have moved (holder : Holder) (side : Side) := Books.balance_carryAll applied holder
    (session.pair.info side)
  have distinct := session.pair.info_first_ne_second
  refine {
    account := rfl
    assets := rfl
    positive := terms.positive
    paid := ?paid
    refunded := ?refunded
    received := ?received
    burned := ?burned }
  case paid =>
    intro side
    rw [terms.refunds]
    cases side with
    | first => exact terms.first
    | second => exact terms.second
  case refunded =>
    intro side
    have sideMoved := moved session.ledger.account side
    have held : session.ledger.books.balances.get session.ledger.account
      (session.pair.info side) = session.reserve side := rfl
    simp only [terms.effects, List.map_cons, List.map_nil, List.sum_cons, List.sum_nil,
      Effect.balanceChange, Balances.flow, apart.symm, if_true, if_false, held] at sideMoved
    rw [reserve_withBooks, terms.refunds]
    cases side <;> simp only [distinct, distinct.symm, if_true, if_false, Side.of_first,
      Side.of_second] at sideMoved ⊢ <;> omega
  case received =>
    intro side
    have sideMoved := moved order.sender side
    simp only [terms.effects, List.map_cons, List.map_nil, List.sum_cons, List.sum_nil,
      Effect.balanceChange, Balances.flow, apart, if_true, if_false] at sideMoved
    rw [terms.refunds]
    simp only [Ledger.balance, withBooks_ledger]
    cases side <;> simp only [distinct, distinct.symm, if_true, if_false, Side.of_first,
      Side.of_second] at sideMoved ⊢ <;> omega
  case burned =>
    have burned := Books.supply_carryAll applied
    have positive := terms.positive
    simp only [terms.effects, List.map_cons, List.map_nil, List.sum_cons, List.sum_nil,
      Effect.supplyChange] at burned
    show after.shares.supply + _ = session.ledger.books.shares.supply
    omega

/-- Every way in which a turn can change the figures. -/
inductive Passage (before : Session) : Turn → Reply × Session → Prop where
  | donated {turn : Turn} {reply : Reply} {after : Session} (unaccepted : reply.accepted? = none)
    (donated : Donated before after) : Passage before turn (reply, after)
  | swapped {order : SwapOrder} {pair : Pair} {result : SwapResult} {after : Session}
    {side : Side} {fill : Curve.Fill} (swapped : Swapped before order after side fill) :
    Passage before (.act (.swap order))
      (.answered (.report (.accepted pair (.swap result))), after)
  | provided {order : ProvideOrder} {pair : Pair} {result : ProvideResult} {after : Session}
    (provided : Provided before result after) :
    Passage before (.act (.provide order))
      (.answered (.report (.accepted pair (.provide result))), after)
  | withdrawn {order : WithdrawOrder} {pair : Pair} {result : WithdrawResult} {after : Session}
    (withdrawn : Withdrawn before order result after) :
    Passage before (.act (.withdraw order))
      (.answered (.report (.accepted pair (.withdraw result))), after)

theorem Passage.of_donated {before : Session} {turn : Turn} {result : Reply × Session}
    (unaccepted : result.1.accepted? = none) (donated : Donated before result.2) :
    Passage before turn result :=
  .donated unaccepted donated

theorem accepted_change (session : Session) (program : LiveLedger Unit) :
    (session.change program).1.accepted? = none := by
  rw [change]
  cases session.ledger.operate program with
  | mk result ledger => cases result <;> rfl

theorem passage (session : Session) (turn : Turn)
    (apart : turn.actor? ≠ some session.ledger.account) :
    Passage session turn (session.turn turn) := by
  cases turn with
  | mint holder asset =>
    exact .of_donated (accepted_change session (LiveLedger.mint holder asset))
      (donated_mint session holder asset)
  | receive sender asset =>
    exact .of_donated
      (accepted_change session (LiveLedger.receive session.ledger.account sender asset))
      (donated_receive session sender asset)
  | setRate rate => exact .donated rfl ⟨⟨rfl, rfl⟩, rfl, fun _ => le_rfl⟩
  | act action =>
    have foreign {fund : Holder × Asset} (member : fund ∈ action.funds) :
        fund.1 ≠ session.ledger.account := Action.funds_apart apart member
    have course := session.course action
    generalize session.turn (.act action) = result at course ⊢
    cases course with
    | short part carried =>
      exact .donated rfl (donated_of_funded carried fun _ member => foreign (part.subset member))
    | rejected funded faulty => exact .donated rfl (donated_of_funded funded fun _ => foreign)
    | unapplied funded accepted failed =>
      exact .donated rfl (donated_of_funded funded fun _ => foreign)
    | settled funded accepted applied =>
      cases action with
      | swap order =>
        obtain ⟨result, answered, rfl⟩ := map_eq_ok.1 accepted
        obtain ⟨side, fill, moved⟩ :=
          swapped (Option.some_inj.not.1 apart) funded answered applied
        exact .swapped moved
      | provide order =>
        obtain ⟨result, answered, rfl⟩ := map_eq_ok.1 accepted
        exact .provided (provided (Option.some_inj.not.1 apart) funded answered applied)
      | withdraw order =>
        obtain ⟨result, answered, rfl⟩ := map_eq_ok.1 accepted
        cases Books.carryAll_nil_eq_ok.1 funded
        exact .withdrawn (withdrawn (Option.some_inj.not.1 apart) answered applied)
      | unreadable fault => cases accepted

theorem turn_later (session : Session) (turn : Turn)
    (apart : turn.actor? ≠ some session.ledger.account) :
    Later session (session.turn turn).2 := by
  have passage := passage session turn apart
  generalize session.turn turn = result at passage ⊢
  cases passage with
  | donated unaccepted donated => exact donated.toLater
  | swapped swapped => exact swapped.toLater
  | provided provided => exact provided.toLater
  | withdrawn withdrawn => exact withdrawn.toLater

/-- What each turn of a kind preserves is preserved by runs of them. The account of the
    pair never changes, so who must not act is said once for the whole run. -/
theorem run_preserves (invariant : Session → Prop) {kind : Turn → Prop}
    (preserved : ∀ now turn, kind turn → turn.actor? ≠ some now.ledger.account →
      invariant now → invariant (now.turn turn).2)
    {turns : List Turn}
    (others : ∀ turn ∈ turns, kind turn ∧ turn.actor? ≠ some session.ledger.account)
    (start : invariant session) :
    invariant (session.run turns) ∧
      (session.run turns).ledger.account = session.ledger.account := by
  induction turns generalizing session with
  | nil => exact ⟨start, rfl⟩
  | cons turn rest ih =>
    obtain ⟨fits, apart⟩ := others turn (by simp)
    have later := turn_later session turn apart
    have onward : ∀ next ∈ rest, kind next ∧
        next.actor? ≠ some (session.turn turn).2.ledger.account := by
      intro next member
      rw [later.account]
      exact others next (List.mem_cons_of_mem _ member)
    obtain ⟨holds, sameAccount⟩ := ih onward (preserved session turn fits apart start)
    exact ⟨holds, sameAccount.trans later.account⟩

theorem swapped_of_accepts {before after : Session} {order : SwapOrder} {result : SwapResult}
    (apart : order.sender ≠ before.ledger.account)
    (accepted : before.Accepts (.swap order) (.swap result) after) :
    ∃ side fill, Swapped before order after side fill := by
  have passage := passage before (.act (.swap order)) (Option.some_inj.not.2 apart)
  rw [accepted] at passage
  cases passage with
  | donated unaccepted donated => cases unaccepted
  | swapped swapped => exact ⟨_, _, swapped⟩

theorem provided_of_accepts {before after : Session} {order : ProvideOrder}
    {result : ProvideResult} (apart : order.sender ≠ before.ledger.account)
    (accepted : before.Accepts (.provide order) (.provide result) after) :
    Provided before result after := by
  have passage := passage before (.act (.provide order)) (Option.some_inj.not.2 apart)
  rw [accepted] at passage
  cases passage with
  | donated unaccepted donated => cases unaccepted
  | provided provided => exact provided

theorem withdrawn_of_accepts {before after : Session} {order : WithdrawOrder}
    {result : WithdrawResult} (apart : order.sender ≠ before.ledger.account)
    (accepted : before.Accepts (.withdraw order) (.withdraw result) after) :
    Withdrawn before order result after := by
  have passage := passage before (.act (.withdraw order)) (Option.some_inj.not.2 apart)
  rw [accepted] at passage
  cases passage with
  | donated unaccepted donated => cases unaccepted
  | withdrawn withdrawn => exact withdrawn

end VeiledPool.Session
