import VeiledPool.Proofs.Exchange.Product
import VeiledPool.Proofs.Session.Passage

/-! # Runs of trades

While nobody deposits or withdraws, the product of the reserves does not fall:
funds that come in raise it, and a swap pays at most what keeps it. So no run of
trades drains the pair, and each accepted swap leaves the reserves where its price
says.
-/

namespace VeiledPool

def Turn.movesLiquidity : Turn → Bool
  | act (.provide _) => true
  | act (.withdraw _) => true
  | _ => false

namespace Session

def product (session : Session) : Nat :=
  session.reserve .first * session.reserve .second

theorem product_eq (session : Session) (side : Side) :
    session.product = session.reserve side * session.reserve side.other := by
  cases side with
  | first => rfl
  | second => exact Nat.mul_comm _ _

theorem funded_iff {session : Session} :
    0 < session.product ↔ ∀ side, 0 < session.reserve side := by
  simp only [product, Nat.pos_iff_ne_zero, ne_eq, Nat.mul_eq_zero,
    not_or]
  constructor
  · rintro ⟨first, second⟩ side
    cases side with
    | first => exact first
    | second => exact second
  · intro funded
    exact ⟨funded .first, funded .second⟩

variable {before after : Session}

theorem Donated.product_le (donated : Donated before after) : before.product ≤ after.product :=
  Nat.mul_le_mul (donated.reserves .first) (donated.reserves .second)

theorem Swapped.product_le {order : SwapOrder} {side : Side} {fill : Curve.Fill}
    (swapped : Swapped before order after side fill) : before.product ≤ after.product := by
  obtain ⟨-, -, rfl⟩ := Curve.fill_eq_ok_iff.1 swapped.priced
  have paid := swapped.paid
  generalize kept : (if order.recipient.getD order.sender = before.ledger.account then 0
    else (Curve.exactFill (before.reserve side) (before.reserve side.other) order.offer.amount
      before.rate).returned) = returned at paid
  have fair : returned ≤ Curve.gross (before.reserve side) (before.reserve side.other)
      order.offer.amount := by
    rw [← kept]
    split
    · exact Nat.zero_le _
    · exact Curve.returned_le_gross before.rate
  rw [before.product_eq side, after.product_eq side, swapped.offered, Nat.eq_sub_of_add_eq paid]
  exact Curve.product_le_of_le_gross fair

/-- An accepted swap leaves the reserves of its fill, unless the pair pays itself. -/
theorem Swapped.reserves_eq {order : SwapOrder} {side : Side} {fill : Curve.Fill}
    (swapped : Swapped before order after side fill)
    (paidOut : order.recipient.getD order.sender ≠ before.ledger.account) :
    after.reserve side = fill.newOfferPool ∧ after.reserve side.other = fill.newAskPool := by
  obtain ⟨-, -, rfl⟩ := Curve.fill_eq_ok_iff.1 swapped.priced
  have paid := swapped.paid
  rw [if_neg paidOut] at paid
  exact ⟨swapped.offered, Nat.eq_sub_of_add_eq paid⟩

theorem turn_product_le {session : Session} {turn : Turn}
    (apart : turn.actor? ≠ some session.ledger.account) (trading : turn.movesLiquidity = false) :
    session.product ≤ (session.turn turn).2.product := by
  have passage := passage session turn apart
  generalize session.turn turn = result at passage ⊢
  cases passage with
  | donated unaccepted donated => exact donated.product_le
  | swapped swapped => exact swapped.product_le
  | provided provided => cases trading
  | withdrawn withdrawn => cases trading

theorem run_product_le {session : Session} {turns : List Turn}
    (others : ∀ turn ∈ turns, turn.movesLiquidity = false ∧
      turn.actor? ≠ some session.ledger.account) :
    session.product ≤ (session.run turns).product ∧
      (session.run turns).ledger.account = session.ledger.account := by
  apply run_preserves (session.product ≤ ·.product) _ others le_rfl
  intro now turn trading apart kept
  exact kept.trans (turn_product_le apart trading)

theorem turn_swap_sound (session : Session) (order : SwapOrder) :
    (∀ after before, (session.turn (.act (.swap order))).1.fault? ≠
      some (.productLoss after before)) ∧
    ∀ answer fault, (session.turn (.act (.swap order))).1 ≠ .unapplied answer fault := by
  have course := session.course (.swap order)
  generalize session.turn (.act (.swap order)) = result at course ⊢
  cases course with
  | short part carried => simp [Reply.fault?]
  | rejected funded faulty =>
    refine ⟨fun after before same => ?_, by simp⟩
    cases same
    exact Exchange.noLoss_swap _ _ _ _ after before (map_eq_error.1 faulty)
  | unapplied funded accepted failed =>
    obtain ⟨result, answered, rfl⟩ := map_eq_ok.1 accepted
    obtain ⟨books, applied⟩ := Exchange.swap_applies answered
    cases applied.symm.trans failed
  | settled funded accepted applied => simp [Reply.fault?]

/-- What a run of trades leaves intact, given where it started and where it got to. -/
structure Unspoiled (start now : Session) : Prop where
  funded : ∀ side, 1 ≤ now.reserve side
  /-- No further turn lowers the product. -/
  kept : ∀ turn : Turn, turn.movesLiquidity = false → turn.actor? ≠ some start.ledger.account →
    now.product ≤ (now.turn turn).2.product
  /-- A swap is never refused for the product. -/
  lossless : ∀ order after before,
    (now.turn (.act (.swap order))).1.fault? ≠ some (.productLoss after before)
  /-- What a swap accepts to pay is paid. -/
  payable : ∀ order answer fault, (now.turn (.act (.swap order))).1 ≠ .unapplied answer fault
  /-- The reserves after a swap are those of its fill, unless the pair pays itself. -/
  priced : ∀ order result after, order.sender ≠ start.ledger.account →
    order.recipient.getD order.sender ≠ start.ledger.account →
    now.Accepts (.swap order) (.swap result) after →
    ∃ side fill, now.pair.sideOf order.offer.info = .ok side ∧
      Curve.fill (now.reserve side) (now.reserve side.other) order.offer.amount now.rate =
        .ok fill ∧
      after.reserve side = fill.newOfferPool ∧ after.reserve side.other = fill.newAskPool
  /-- No reserve is lower unless the other one is higher. -/
  undrained : ¬ ((∀ side, now.reserve side ≤ start.reserve side) ∧
    ∃ side, now.reserve side < start.reserve side)

/-- Runs of swaps never lose value, whatever is offered, by whom, to whom and at
    which rates, and whether the swaps are accepted or not. -/
theorem trading_never_loses (session : Session) (funded : ∀ side, 0 < session.reserve side)
    (turns : List Turn)
    (others : ∀ turn ∈ turns, turn.movesLiquidity = false ∧
      turn.actor? ≠ some session.ledger.account) :
    Unspoiled session (session.run turns) := by
  obtain ⟨kept, sameAccount⟩ := run_product_le others
  refine ⟨?funded, ?kept, fun order => (turn_swap_sound _ order).1,
    fun order => (turn_swap_sound _ order).2, ?priced, ?undrained⟩
  case funded => exact funded_iff.1 (lt_of_lt_of_le (funded_iff.2 funded) kept)
  case kept =>
    intro turn trading apart
    exact turn_product_le (sameAccount ▸ apart) trading
  case priced =>
    intro order result after apart paidOut accepted
    obtain ⟨side, fill, swapped⟩ := swapped_of_accepts (sameAccount ▸ apart) accepted
    exact ⟨side, fill, Pair.sideOf_eq_ok_iff.2 swapped.sold, swapped.priced,
      swapped.reserves_eq (sameAccount ▸ paidOut)⟩
  case undrained =>
    rintro ⟨noneHigher, side, lower⟩
    rw [product_eq _ side, product_eq _ side] at kept
    have shrunk := Nat.mul_lt_mul_of_lt_of_le lower (noneHigher side.other) (funded side.other)
    exact absurd kept (Nat.not_le.2 shrunk)

/-- A swap that is accepted, one that asks for too much and one that pays the pair. -/
def sampleTrades : List Turn :=
  [.act (.swap { sender := "trader", offer := sampleAsset .second 300 }),
    .act (.swap { sender := "trader", offer := sampleAsset .second 200, expectedReturn := some 99 }),
    .setRate ⟨1, 2, by decide, by decide⟩,
    .act (.swap { sender := "provider", offer := sampleAsset .first 40, recipient := some "pool" })]

theorem trading_never_loses_sample :
    (∀ side, 0 < sampleFunded.reserve side) ∧
      (∀ turn ∈ sampleTrades, turn.movesLiquidity = false ∧
        turn.actor? ≠ some sampleFunded.ledger.account) ∧
      Unspoiled sampleFunded (sampleFunded.run sampleTrades) := by
  have funded : ∀ side, 0 < sampleFunded.reserve side := by
    intro side
    cases side <;> decide +kernel
  have others : ∀ turn ∈ sampleTrades, turn.movesLiquidity = false ∧
      turn.actor? ≠ some sampleFunded.ledger.account := by
    decide +kernel
  exact ⟨funded, others, trading_never_loses _ funded sampleTrades others⟩

end Session

end VeiledPool
