import VeiledPool.Proofs.Exchange.Disclosure
import VeiledPool.Proofs.Exchange.Terms
import VeiledPool.Proofs.Ledger.Balances

/-! # Simulated and real swaps

A simulation prices an offer against veiled reserves that do not hold it. A swap
prices it against reserves that do, and takes it back out of them first. Where
the veil leaves the reserves alone the two come to the same result, and where it
does not, to the result of a swap on the reserves it shows.
-/

namespace VeiledPool

namespace Ledger

variable {ledger after : Ledger} {pair : Pair} {sender : Holder} {asset : Asset}

theorem receive_eq_ok_iff :
    ledger.receive sender asset = .ok after ↔
      ∃ balances, ledger.books.balances.transfer sender ledger.account asset.info asset.amount =
          .ok balances ∧
        { ledger with books := { ledger.books with balances } } = after := by
  simp only [receive, bind_eq_ok, pure_eq_ok]

theorem exists_receive (covered : asset.amount ≤ ledger.balance sender asset.info) :
    ∃ after, ledger.receive sender asset = .ok after := by
  cases moved : ledger.books.balances.transfer sender ledger.account asset.info asset.amount with
  | ok balances => exact ⟨_, receive_eq_ok_iff.2 ⟨balances, moved, rfl⟩⟩
  | error fault =>
    have short := (Balances.transfer_eq_error_iff.1 moved).1
    exact absurd covered (Nat.not_le.2 short)

theorem reserve_receive (received : ledger.receive sender asset = .ok after)
    (outsider : sender ≠ ledger.account) (info : AssetInfo) :
    after.reserve info = ledger.reserve info +
      if info.id = asset.info.id then asset.amount else 0 := by
  obtain ⟨balances, moved, made⟩ := receive_eq_ok_iff.1 received
  subst made
  have change := Balances.get_transfer moved ledger.account info
  by_cases here : info.id = asset.info.id
  · rw [here, Balances.flow_self, if_pos rfl, if_neg outsider.symm] at change
    rw [if_pos here]
    exact Int.ofNat_inj.1 (change.trans (by simp [reserve, balance]))
  · rw [Balances.flow_of_ne _ _ _ _ here] at change
    rw [if_neg here]
    exact Int.ofNat_inj.1 (change.trans (by simp [reserve, balance]))

def withReserves (ledger : Ledger) (pair : Pair) (reserve : Side → Nat) : Ledger :=
  let first := ledger.books.balances.table.set (ledger.account, (pair.info .first).id)
    (reserve .first)
  let both := first.set (ledger.account, (pair.info .second).id) (reserve .second)
  { ledger with books := { ledger.books with balances := ⟨both⟩ } }

variable (ledger pair) (reserve : Side → Nat)

theorem pool_withReserves (side : Side) :
    ((ledger.withReserves pair reserve).pool pair side).amount = reserve side := by
  cases side with
  | first =>
    have apart : (ledger.account, (pair.info .first).id) ≠
        (ledger.account, (pair.info .second).id) := by
      simpa using pair.info_first_ne_second
    exact (Tally.get_set_of_ne _ apart _).trans (Tally.get_set_self _ _ _)
  | second => exact Tally.get_set_self _ _ _

theorem balance_withReserves {holder : Holder} (outsider : holder ≠ ledger.account)
    (info : AssetInfo) :
    (ledger.withReserves pair reserve).balance holder info = ledger.balance holder info := by
  have apart : ∀ id, (holder, info.id) ≠ (ledger.account, id) := by
    intro id same
    exact outsider (Prod.mk.inj same).1
  exact (Tally.get_set_of_ne _ (apart _) _).trans (Tally.get_set_of_ne _ (apart _) _)

end Ledger

namespace Exchange

variable {ledger received : Ledger} {rate : CommissionRate} {pair : Pair} {order : SwapOrder}
  {side : Side} {source rest : Entropy} {draw : UInt64}

/-- A simulation and a swap give the same three amounts or the same refusal. -/
structure Agree (simulated : Except Fault Curve.Fill) (swapped : Except Fault SwapResult) :
    Prop where
  amounts : ∀ returned spread commission,
    (∃ fill, simulated = .ok fill ∧ fill.returned = returned ∧ fill.spread = spread ∧
        fill.commission = commission) ↔
      ∃ result, swapped = .ok result ∧ result.returned.amount = returned ∧
        result.spread = spread ∧ result.commission = commission
  refusals : ∀ fault, simulated = .error fault ↔ swapped = .error fault

theorem agree_resultOf (simulated : Except Fault Curve.Fill) :
    Agree simulated (resultOf pair order side <$> simulated) := by
  constructor
  · intro returned spread commission
    simp only [map_eq_ok]
    constructor
    · intro ⟨fill, filled, amounts⟩
      exact ⟨_, ⟨fill, filled, rfl⟩, amounts⟩
    · intro ⟨_, ⟨fill, filled, made⟩, amounts⟩
      subst made
      exact ⟨fill, filled, amounts⟩
  · intro fault
    rw [map_eq_error]

/-- A swap without bounds can fail in its pricing only, once the offer has arrived and can be
    counted. -/
theorem swap_eq_resultOf {before : Nat} (offered : order.offer.info.id = (pair.info side).id)
    (arrived : (ledger.pool pair side).amount = before + order.offer.amount)
    (small : before + order.offer.amount ≤ wideMax)
    (unbounded : SpreadBound.select order.beliefPrice order.maxSpread order.expectedReturn =
      .unbounded)
    (counted : pair.volume side + order.offer.amount ≤ amountMax) :
    swap ledger rate pair order = resultOf pair order side <$>
      Curve.guardedFill before (ledger.pool pair side.other).amount order.offer.amount rate := by
  have enough : ¬ before + order.offer.amount < order.offer.amount := by omega
  have left : (before + order.offer.amount - order.offer.amount : Nat) = before := by omega
  unfold swap
  simp only [Pair.sideOf_eq_ok_iff.2 offered, ok_bind, arrived, Wide.require_sub_lift small,
    if_neg enough, left, Int.toNat_natCast, unbounded, Pair.addVolume_natCast,
    if_neg (Nat.not_lt.2 counted), SpreadBound.check]
  cases Curve.guardedFill before (ledger.pool pair side.other).amount order.offer.amount rate with
  | ok fill =>
    rw [ok_bind]
    rfl
  | error fault => rw [error_bind]; rfl

theorem simulate_of_shown (drawn : source.next = (.ok draw, rest)) {offer : Asset}
    (offered : offer.info.id = (pair.info side).id)
    (small : ∀ side, Veil.shown draw (ledger.pool pair side).amount ≤ amountMax) :
    (simulate ledger rate pair offer source).1 =
      Curve.guardedFill (Veil.shown draw (ledger.pool pair side).amount)
        (Veil.shown draw (ledger.pool pair side.other).amount) offer.amount rate := by
  have covered : (Veil.ofDraw draw).coverPools (ledger.pools pair) = .ok _ :=
    Veil.coverPools_ofDraw_eq_ok_iff.2 ⟨⟨small .first, small .second⟩, rfl⟩
  rw [simulate_eq_observe ledger rate (Pair.sideOf_eq_ok_iff.2 offered),
    Entropy.observe_of_draw drawn, fillUnder, covered, ok_bind]
  cases side with
  | first => rfl
  | second => rfl

theorem agree_of_received (drawn : source.next = (.ok draw, rest))
    (unbounded : SpreadBound.select order.beliefPrice order.maxSpread order.expectedReturn =
      .unbounded)
    (offered : order.offer.info.id = (pair.info side).id)
    (small : ∀ side, Veil.shown draw (ledger.pool pair side).amount ≤ amountMax)
    (counted : pair.volume side + order.offer.amount ≤ amountMax)
    {shownLedger : Ledger} (outsider : order.sender ≠ shownLedger.account)
    (shows : ∀ side, (shownLedger.pool pair side).amount =
      Veil.shown draw (ledger.pool pair side).amount)
    (covered : order.offer.amount ≤ shownLedger.balance order.sender order.offer.info) :
    ∃ received, shownLedger.receive order.sender order.offer = .ok received ∧
      Agree (simulate ledger rate pair order.offer source).1 (swap received rate pair order) := by
  obtain ⟨received, arrives⟩ := Ledger.exists_receive covered
  have reserve := Ledger.reserve_receive arrives outsider
  have arrived : (received.pool pair side).amount =
      Veil.shown draw (ledger.pool pair side).amount + order.offer.amount := by
    rw [← shows, Ledger.pool, Ledger.pool, reserve, if_pos offered.symm]
  have kept : (received.pool pair side.other).amount =
      Veil.shown draw (ledger.pool pair side.other).amount := by
    have apart : (pair.info side.other).id ≠ order.offer.info.id := by
      rw [offered]
      exact (pair.info_id_ne_other side).symm
    rw [← shows, Ledger.pool, Ledger.pool, reserve, if_neg apart, Nat.add_zero]
  have room : Veil.shown draw (ledger.pool pair side).amount + order.offer.amount ≤ wideMax := by
    have shownSmall := small side
    have both := two_amounts_le_wideMax
    omega
  refine ⟨received, arrives, ?_⟩
  rw [simulate_of_shown drawn offered small, swap_eq_resultOf offered arrived room unbounded counted,
    kept]
  exact agree_resultOf _

/-- Under a neutral draw the simulation agrees with the swap of an offer that has been received,
    and under any draw it agrees with that swap on the reserves that the draw shows. -/
theorem simulation_agrees_with_swap (rate : CommissionRate) (drawn : source.next = (.ok draw, rest))
    (unbounded : SpreadBound.select order.beliefPrice order.maxSpread order.expectedReturn =
      .unbounded)
    (offered : order.offer.info.id = (pair.info side).id)
    (outsider : order.sender ≠ ledger.account)
    (covered : order.offer.amount ≤ ledger.balance order.sender order.offer.info)
    (reserves : ∀ side, (ledger.pool pair side).amount ≤ amountMax)
    (counted : pair.volume side + order.offer.amount ≤ amountMax) :
    (draw.toNat % 100 = 0 →
      ∃ received, ledger.receive order.sender order.offer = .ok received ∧
        Agree (simulate ledger rate pair order.offer source).1 (swap received rate pair order)) ∧
    ((∀ side, (ledger.pool pair side).amount * Veil.parts draw / 10000 ≤ amountMax) →
      ∃ received,
        (ledger.withReserves pair fun side =>
          (ledger.pool pair side).amount * Veil.parts draw / 10000).receive
            order.sender order.offer = .ok received ∧
        Agree (simulate ledger rate pair order.offer source).1
          (swap received rate pair order)) := by
  constructor
  · intro neutral
    have same : ∀ side, (ledger.pool pair side).amount =
        Veil.shown draw (ledger.pool pair side).amount :=
      fun side => (Veil.shown_of_neutral neutral).symm
    exact agree_of_received drawn unbounded offered (fun side => same side ▸ reserves side) counted
      outsider same covered
  · intro small
    refine agree_of_received drawn unbounded offered small counted outsider
      (Ledger.pool_withReserves ledger pair _) ?_
    rw [Ledger.balance_withReserves ledger pair _ outsider]
    exact covered

/-- The trader of the example offers tokens while the draw takes seven ten thousandths off. -/
def sampleSale : SwapOrder :=
  { sender := "trader", offer := Session.sampleAsset .second 500 }

theorem simulation_agrees_with_swap_sample :
    (Entropy.script [107] 0).next = (.ok 107, .script [107] 1) ∧
      sampleSale.sender ≠ Session.sampleFunded.ledger.account ∧
      sampleSale.offer.amount ≤
        Session.sampleFunded.ledger.balance "trader" sampleSale.offer.info ∧
      ∃ received,
        (Session.sampleFunded.ledger.withReserves Session.sample.pair fun side =>
          (Session.sampleFunded.ledger.pool Session.sample.pair side).amount *
            Veil.parts 107 / 10000).receive "trader" sampleSale.offer = .ok received ∧
        ∃ result, swap received .standard Session.sample.pair sampleSale = .ok result ∧
          result.returned.amount = 111 ∧ result.spread = 13 ∧ result.commission = 0 := by
  have drawn : (Entropy.script [107] 0).next = (.ok 107, .script [107] 1) := rfl
  have outsider : sampleSale.sender ≠ Session.sampleFunded.ledger.account := by
    decide +kernel
  have covered : sampleSale.offer.amount ≤
      Session.sampleFunded.ledger.balance "trader" sampleSale.offer.info := by decide +kernel
  have reserves : ∀ side,
      (Session.sampleFunded.ledger.pool Session.sample.pair side).amount ≤ amountMax := by
    intro side
    cases side <;> decide +kernel
  have shownSmall : ∀ side, (Session.sampleFunded.ledger.pool Session.sample.pair side).amount *
      Veil.parts 107 / 10000 ≤ amountMax := by
    intro side
    cases side <;> decide +kernel
  obtain ⟨-, scaled⟩ := simulation_agrees_with_swap .standard drawn rfl
    (Eq.refl (Session.sample.pair.info .second).id) outsider covered reserves (by decide +kernel)
  obtain ⟨received, arrives, agree⟩ := scaled shownSmall
  refine ⟨drawn, outsider, covered, received, arrives, ?_⟩
  apply (agree.amounts 111 13 0).1
  refine ⟨⟨111, 13, 0, 4497, 888, 3993003, 3993336⟩, ?_⟩
  decide +kernel

end Exchange

end VeiledPool
