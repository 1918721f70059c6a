import VeiledPool.Proofs.Exchange.Terms
import VeiledPool.Proofs.Guard.Spread
import VeiledPool.Proofs.Session.Turn

/-! # What stands against a swap

On reserves, rates and prices of native size the end of a swap is known from a
few comparisons of natural numbers. They are made in a fixed order and the first
that holds decides: nothing else in the pricing, the bounds or the counting of
volume can fail. The offer and the expected return may be of any size, so these two
may be too long to be named in a refusal.
-/

namespace VeiledPool

namespace Report

/-- The report rejects a request for this reason, and callers see its code. -/
def Rejects (report : Report) (objection : Objection) : Prop :=
  report = .rejected objection.fault ∧ objection.fault.rejectionCode = objection.code

theorem rejects_rejected (objection : Objection) :
    (rejected objection.fault).Rejects objection :=
  ⟨rfl, objection.coded⟩

end Report

namespace Exchange

/-- The numbers of a swap are of native size. The offer may be any, and so may the
    bounds, except that a believed price has 256 bits. -/
structure SwapNative (ledger : Ledger) (rate : CommissionRate) (pair : Pair)
    (order : SwapOrder) : Prop where
  reserves : ∀ side, (ledger.pool pair side).amount ≤ amountMax
  volumes : ∀ side, pair.volume side ≤ amountMax
  denom : rate.denom ≤ amountMax
  price : ∀ price, order.beliefPrice = some price → price.atomics ≤ wideMax

/-- Everything that can stand against selling an offer of one side, in the order in which
    it is looked for. -/
def swapObjection? (ledger : Ledger) (rate : CommissionRate) (pair : Pair) (order : SwapOrder)
    (side : Side) : Option Objection :=
  let offer := order.offer.amount
  let held := (ledger.pool pair side).amount
  let offerPool := held - offer
  let askPool := (ledger.pool pair side.other).amount
  let gross := askPool * offer / (offerPool + offer)
  let marginal := offer * askPool / offerPool
  let commission := gross * rate.nom / rate.denom
  let bound := SpreadBound.select order.beliefPrice order.maxSpread order.expectedReturn
  let volume := pair.volume side + offer
  Objection.raised (held < offer) (Objection.legibly
    { code := "arithmetic_overflow", fault := .overflow (.offerBeyondReserve offer held) }) <|>
  (Objection.raised (offerPool = 0 ∨ askPool = 0)
    { code := "degenerate_state", fault := .degenerate (.emptyForSwap offerPool askPool) } <|>
  Objection.raised (amountMax < marginal - gross)
    { code := "arithmetic_overflow"
      fault := .overflow (.narrowing "spread_amount" (marginal - gross : Nat)) }) <|>
  bound.objection? offer (gross - commission) gross marginal <|>
  Objection.raised (amountMax < volume)
    { code := "arithmetic_overflow"
      fault := .overflow (.narrowing (Pair.volumeName side) volume) }

/-- What a swap comes to if nothing stands against it. -/
def exactSwap (ledger : Ledger) (rate : CommissionRate) (pair : Pair) (order : SwapOrder)
    (side : Side) : SwapResult :=
  resultOf pair order side (Curve.exactFill ((ledger.pool pair side).amount - order.offer.amount)
    (ledger.pool pair side.other).amount order.offer.amount rate)

variable {ledger : Ledger} {rate : CommissionRate} {pair : Pair} {order : SwapOrder} {side : Side}

theorem select_eq_beliefPrice {beliefPrice maxSpread : Option Fixed} {expected : Option Int}
    {price limit : Fixed}
    (selected : SpreadBound.select beliefPrice maxSpread expected = .beliefPrice price limit) :
    beliefPrice = some price := by
  cases expected <;> cases beliefPrice <;> cases maxSpread <;> simp_all [SpreadBound.select]

/-- With the offer taken back out of its reserve, a fill of native numbers is refused for
    an empty reserve or for its spread. -/
theorem fill_eq_barring {held askPool offer : Nat} (enough : ¬ held < offer)
    (heldSmall : held ≤ amountMax) (askSmall : askPool ≤ amountMax)
    (denom : rate.denom ≤ amountMax) :
    let fill := Curve.exactFill (held - offer) askPool offer rate
    Curve.guardedFill (held - offer) askPool offer rate = Objection.barring
      (Objection.raised (held - offer = 0 ∨ askPool = 0)
        { code := "degenerate_state"
          fault := .degenerate (.emptyForSwap (held - offer) askPool) } <|>
      Objection.raised (amountMax < fill.spread)
        { code := "arithmetic_overflow"
          fault := .overflow (.narrowing "spread_amount" fill.spread) }) fill := by
  intro fill
  rw [Curve.guardedFill_eq_fill]
  by_cases empty : held - offer = 0 ∨ askPool = 0
  · have shown : (Fault.degenerate (.emptyForSwap (held - offer) askPool)).raised =
        .degenerate (.emptyForSwap (held - offer) askPool) :=
      raised_of_not_illegible (not_illegible_iff.2 (by
        simp only [Fault.figures, Degeneracy.figures, List.forall_mem_cons]
        exact ⟨legible_of_le_amountMax (by omega), legible_of_le_amountMax askSmall, by simp⟩))
    simp [Curve.fill, Objection.raised, Objection.barring, empty, shown]
  obtain ⟨offerFunded, askFunded⟩ : 0 < held - offer ∧ 0 < askPool := by omega
  rw [Objection.barring_of_none (Objection.raised_eq_none_iff.2 empty), Objection.barring_raised,
    Curve.fill_eq_of_native offerFunded askFunded (by omega) askSmall denom]

theorem check_eq_barring {offerPool askPool offer : Nat}
    (native : SwapNative ledger rate pair order) (offerFunded : 0 < offerPool)
    (offerSmall : offer ≤ amountMax) (askSmall : askPool ≤ amountMax)
    (spreadSmall : (Curve.exactFill offerPool askPool offer rate).spread ≤ amountMax) :
    let fill := Curve.exactFill offerPool askPool offer rate
    let bound := SpreadBound.select order.beliefPrice order.maxSpread order.expectedReturn
    bound.check offer fill.returned fill.commission fill.spread =
      Objection.barring (bound.objection? offer fill.returned
        (Curve.gross offerPool askPool offer) (Curve.marginal offerPool askPool offer)) () := by
  intro fill bound
  have gross : fill.returned + fill.commission = Curve.gross offerPool askPool offer :=
    Curve.returned_add_commission rate
  have marginal : Curve.gross offerPool askPool offer + fill.spread =
      Curve.marginal offerPool askPool offer := Curve.gross_add_spread offerFunded rate
  have marginalSmall : Curve.marginal offerPool askPool offer ≤ wideMax :=
    (Nat.div_le_self _ _).trans
      ((Nat.mul_le_mul offerSmall askSmall).trans amountMax_sq_le_wideMax)
  have price : ∀ price limit, bound = .beliefPrice price limit → price.atomics ≤ wideMax := by
    intro price limit selected
    exact native.price price (select_eq_beliefPrice selected)
  rw [bound.check_eq offerSmall spreadSmall (by rw [gross, marginal]; exact marginalSmall) price,
    gross, marginal]

theorem swap_eq_of_native (native : SwapNative ledger rate pair order)
    (offered : order.offer.info.id = (pair.info side).id) :
    swap ledger rate pair order =
      Objection.barring (swapObjection? ledger rate pair order side)
        (exactSwap ledger rate pair order side) := by
  have heldSmall := native.reserves side
  have askSmall := native.reserves side.other
  unfold swap swapObjection? exactSwap resultOf
  simp only [Pair.sideOf_eq_ok_iff.2 offered, ok_bind]
  generalize (ledger.pool pair side).amount = held at heldSmall ⊢
  generalize (ledger.pool pair side.other).amount = askPool at askSmall ⊢
  generalize order.offer.amount = offer
  have arrived : Wide.require (.offerBeyondReserve offer held)
      (Wide.sub (Wide.lift held) (Wide.lift offer)) =
        Objection.barring (Objection.raised (held < offer) (Objection.legibly
          { code := "arithmetic_overflow", fault := .overflow (.offerBeyondReserve offer held) }))
          ((held - offer : Nat) : Int) := by
    rw [Wide.require_sub_lift (heldSmall.trans amountMax_le_wideMax), Objection.barring_raised,
      Objection.fault_legibly]
  rw [arrived]
  refine Objection.barring_bind fun enough => ?_
  have enough := Objection.raised_eq_none_iff.1 enough
  rw [Int.toNat_natCast, fill_eq_barring enough heldSmall askSmall native.denom]
  refine Objection.barring_bind fun filled => ?_
  obtain ⟨funded, spreadSmall⟩ := Objection.orElse_eq_none_iff.1 filled
  have funded := Objection.raised_eq_none_iff.1 funded
  have spreadSmall := Nat.not_lt.1 (Objection.raised_eq_none_iff.1 spreadSmall)
  rw [check_eq_barring native (by omega) (by omega) askSmall spreadSmall]
  refine Objection.barring_bind fun _ => ?_
  have volumeSmall : pair.volume side + offer ≤ wideMax :=
    (Nat.add_le_add (native.volumes side) (by omega)).trans two_amounts_le_wideMax
  have volumeLegible : ¬ Illegible (Fault.overflow (.narrowing (Pair.volumeName side)
      (pair.volume side + offer : Nat))).figures := by
    simpa [Fault.figures, Overflow.figures] using legible_of_le_wideMax volumeSmall
  have counted : pair.addVolume side offer = Objection.barring
      (Objection.raised (amountMax < pair.volume side + offer)
        { code := "arithmetic_overflow"
          fault := .overflow (.narrowing (Pair.volumeName side) (pair.volume side + offer : Nat)) })
      (pair.withOffer side offer) := by
    rw [Pair.addVolume_natCast, raised_of_not_illegible volumeLegible, Objection.barring_raised]
  rw [counted]
  exact Objection.barring_bind_pure _ _ _

theorem swap_eq_of_foreign (foreign : ¬ pair.Trades order.offer.info) :
    swap ledger rate pair order = .error (.invalidAsset
      (.stranger order.offer.info.name pair.assets.first.name pair.assets.second.name)) := by
  rw [swap, Pair.sideOf_eq_error foreign, error_bind]

theorem handle_swap (ledger : Ledger) (rate : CommissionRate) (pair : Pair) (order : SwapOrder)
    (source : Entropy) :
    (handle ledger rate pair (.swap order) source).1 =
      match swap ledger rate pair order with
      | .ok result => .accepted result.pair (.swap result)
      | .error fault => .rejected fault := by
  simp only [handle, perform]
  cases swap ledger rate pair order with
  | ok result => rfl
  | error fault => rfl

/-- The verdict on a swap of native numbers is that of the first objection, and without any it
    is the exact result of the curve. -/
theorem handle_swap_verdict (native : SwapNative ledger rate pair order) (source : Entropy) :
    (¬ pair.Trades order.offer.info →
      (handle ledger rate pair (.swap order) source).1.Rejects
        { code := "invalid_asset"
          fault := .invalidAsset (.stranger order.offer.info.name pair.assets.first.name
            pair.assets.second.name) }) ∧
    ∀ side, order.offer.info.id = (pair.info side).id →
      match swapObjection? ledger rate pair order side with
      | some objection => (handle ledger rate pair (.swap order) source).1.Rejects objection
      | none => (handle ledger rate pair (.swap order) source).1 =
          .accepted (pair.withOffer side order.offer.amount)
            (.swap (exactSwap ledger rate pair order side)) := by
  rw [handle_swap]
  constructor
  · intro foreign
    rw [swap_eq_of_foreign foreign]
    exact ⟨rfl, rfl⟩
  · intro side offered
    rw [swap_eq_of_native native offered]
    cases swapObjection? ledger rate pair order side with
    | some objection => exact Report.rejects_rejected objection
    | none => rfl

/-- A pool that is full on both sides, but for an offer of half of what a reserve can hold. -/
def sampleBrimful : Session :=
  Session.sample.run [.mint "pool" (Session.sampleAsset .first (2 ^ 127 + 1)),
    .mint "pool" (Session.sampleAsset .second amountMax)]

def sampleOffer : SwapOrder :=
  { sender := "trader", offer := Session.sampleAsset .first (2 ^ 127) }

/-- Without the offer a single coin is left, so nearly all of a huge output is spread. -/
theorem handle_swap_verdict_sample :
    SwapNative sampleBrimful.ledger .standard Session.sample.pair sampleOffer ∧
      sampleOffer.offer.info.id = (Session.sample.pair.info .first).id ∧
      (handle sampleBrimful.ledger .standard Session.sample.pair (.swap sampleOffer)
        sampleBrimful.entropy).1.Rejects
        { code := "arithmetic_overflow"
          fault := .overflow (.narrowing "spread_amount"
            (2 ^ 127 * amountMax - amountMax * 2 ^ 127 / (1 + 2 ^ 127) : Nat)) } := by
  have native : SwapNative sampleBrimful.ledger .standard Session.sample.pair sampleOffer := by
    refine ⟨fun side => ?_, fun side => ?_, by decide +kernel, fun price given => by cases given⟩
    · cases side <;> decide +kernel
    · cases side <;> decide +kernel
  have decided : swapObjection? sampleBrimful.ledger .standard Session.sample.pair sampleOffer
      .first = some
        { code := "arithmetic_overflow"
          fault := .overflow (.narrowing "spread_amount"
            (2 ^ 127 * amountMax - amountMax * 2 ^ 127 / (1 + 2 ^ 127) : Nat)) } := by
    decide +kernel
  have verdict := (handle_swap_verdict native sampleBrimful.entropy).2 .first rfl
  rw [decided] at verdict
  exact ⟨native, rfl, verdict⟩

/-- A caller who expects a return of more than 4300 digits. -/
def sampleExpectant : SwapOrder :=
  { sender := "trader"
    offer := Session.sampleAsset .second 300
    expectedReturn := some (10 ^ 5000 : Nat) }

/-- What the swap falls short of cannot be named, so callers see the code of a bad request. -/
theorem illegible_verdict :
    let report := (handle Session.sampleFunded.ledger .standard Session.sample.pair
      (.swap sampleExpectant) Session.sampleFunded.entropy).1
    report = .rejected (.badValue .illegible) ∧
      (Fault.badValue .illegible).rejectionCode = "invalid_input" ∧
      ¬ ∃ returned expected, report = .rejected (.belowExpected returned expected) := by
  intro report
  have rejected : report = .rejected (.badValue .illegible) := by decide +kernel
  refine ⟨rejected, rfl, ?_⟩
  rintro ⟨returned, expected, missed⟩
  cases rejected.symm.trans missed

end Exchange

end VeiledPool
