import VeiledPool.Proofs.Exchange.Terms
import VeiledPool.Proofs.Guard.Spread
import VeiledPool.Proofs.Request.Guard
import VeiledPool.Proofs.Session.Turn

/-! # What a bound decides

The floors of a bound disappear when its comparison is written across: a share is
within a limit as long as it stays below one atom more than the limit. For native
amounts this is all that a bound decides, and a swap that a limit alone let pass
has its spread within that limit.
-/

namespace VeiledPool.SpreadBound

open Fixed (unit)

/-- What the bounds of a caller say of a swap. An expected return that cannot be written out
    cannot be named in a refusal. -/
def decision (beliefPrice maxSpread : Option Fixed) (expected : Option Int)
    (offer returned commission spread : Nat) : Except Fault Unit :=
  let gross := returned + commission
  match expected, beliefPrice, maxSpread with
  | some expected, _, _ =>
    if expected ≤ returned then .ok ()
    else if Legible expected then .error (.belowExpected (.int returned) (.int expected))
    else .error (.badValue .illegible)
  | none, some price, some limit =>
    let expected := offer * (unit * unit / price.atomics) / unit
    if price.atomics = 0 then .error (.degenerate .reciprocalOfZero)
    else if expected ≤ gross ∨ (expected - gross) * unit < (limit.atomics + 1) * expected then
      .ok ()
    else .error (.beliefSpread expected gross limit)
  | none, none, some limit =>
    let total := gross + spread
    if total = 0 then .error (.degenerate .noOutput)
    else if spread * unit < (limit.atomics + 1) * total then .ok ()
    else .error (.spread spread total limit)
  | none, _, none => .ok ()

variable {offer returned commission spread : Nat} {price limit : Fixed}

/-- A share that was rounded down is above the limit from one atom more than the limit on. -/
theorem limit_lt_share_iff {part whole : Nat} (nonzero : whole ≠ 0) (limit : Fixed) :
    limit.atomics < part * unit / whole ↔ ¬ part * unit < (limit.atomics + 1) * whole := by
  rw [Nat.not_lt, ← Nat.le_div_iff_mul_le (Nat.pos_of_ne_zero nonzero), Nat.succ_le_iff]

theorem short_iff {expected gross : Nat} (limit : Fixed) :
    (gross < expected ∧ limit.atomics < (expected - gross) * unit / expected) ↔
      ¬ (expected ≤ gross ∨ (expected - gross) * unit < (limit.atomics + 1) * expected) := by
  rw [not_or, Nat.not_le]
  exact and_congr_right fun short => limit_lt_share_iff (by omega) limit

theorem barring_beliefPrice (returned marginal : Nat) {gross : Nat} :
    Objection.barring ((beliefPrice price limit).objection? offer returned gross marginal) () =
      let expected := offer * (unit * unit / price.atomics) / unit
      if price.atomics = 0 then .error (.degenerate .reciprocalOfZero)
      else if expected ≤ gross ∨ (expected - gross) * unit < (limit.atomics + 1) * expected then
        .ok ()
      else .error (.beliefSpread expected gross limit) := by
  rw [objection?, Objection.barring_raised_orElse, Objection.barring_raised]
  simp only [short_iff, ite_not, believed]

theorem barring_maxSpread (offer returned : Nat) {gross : Nat} :
    Objection.barring ((maxSpread limit).objection? offer returned gross (gross + spread)) () =
      if gross + spread = 0 then .error (.degenerate .noOutput)
      else if spread * unit < (limit.atomics + 1) * (gross + spread) then .ok ()
      else .error (.spread spread (gross + spread : Nat) limit) := by
  rw [objection?, Objection.barring_raised_orElse, Objection.barring_raised, Nat.add_sub_cancel_left]
  by_cases none : gross + spread = 0
  · rw [if_pos none, if_pos none]
  · simp only [if_neg none, limit_lt_share_iff none, ite_not]

theorem raised_belowExpected (legible : Legible returned) (expected : Int) :
    (Fault.belowExpected (.int returned) (.int expected)).raised =
      if Legible expected then .belowExpected (.int returned) (.int expected)
      else .badValue .illegible := by
  by_cases shown : Legible expected
  · rw [if_pos shown]
    exact raised_of_not_illegible (by simp [Fault.figures, Scalar.figures, legible, shown])
  · rw [if_neg shown]
    exact Fault.raised_of_illegible (by simp [Fault.figures, Scalar.figures]) shown

theorem decision_ne_overflow (beliefPrice maxSpread : Option Fixed) (expected : Option Int)
    (offer returned commission spread : Nat) (cause : Overflow) :
    decision beliefPrice maxSpread expected offer returned commission spread ≠
      .error (.overflow cause) := by
  unfold decision
  dsimp only
  repeat' split
  all_goals simp

theorem check_eq_decision (beliefPrice maxSpread : Option Fixed) (expected : Option Int)
    (offerSmall : offer ≤ amountMax) (spreadSmall : spread ≤ amountMax)
    (totalSmall : returned + commission + spread ≤ wideMax)
    (priceSmall : ∀ price, beliefPrice = some price → price.atomics ≤ wideMax) :
    (select beliefPrice maxSpread expected).check offer returned commission spread =
      decision beliefPrice maxSpread expected offer returned commission spread := by
  cases expected with
  | some expected =>
    have returnedSmall : returned ≤ wideMax := by omega
    simp only [select, check, decision, ← Int.not_lt, ite_not,
      raised_belowExpected (legible_of_le_wideMax returnedSmall)]
    split
    · split <;> rfl
    · rfl
  | none =>
    cases maxSpread with
    | none =>
      -- A believed price bounds nothing without a limit.
      cases beliefPrice <;> rfl
    | some limit =>
      cases beliefPrice with
      | some price =>
        rw [select, check_beliefPrice offerSmall (priceSmall price rfl), barring_beliefPrice]
        rfl
      | none =>
        rw [select, check_maxSpread spreadSmall totalSmall, barring_maxSpread]
        rfl

theorem lt_of_check_maxSpread
    (passed : (maxSpread limit).check offer returned commission spread = .ok ()) :
    spread * unit < (limit.atomics + 1) * (returned + commission + spread) := by
  have sum : (returned : Int) + commission + spread = (returned + commission + spread : Nat) := by
    push_cast
    rfl
  simp only [check, sum] at passed
  split at passed
  · cases passed
  · obtain ⟨lost, measured, allowed⟩ := bind_eq_ok.1 passed
    obtain ⟨⟨nonzero, -⟩, -, rfl⟩ := Fixed.ofRatio_eq_ok_iff.1 measured
    split at allowed
    · cases allowed
    · rename_i within
      rw [Fixed.lt_def, limit_lt_share_iff nonzero, not_not] at within
      exact within

theorem spread_within_limit {ledger : Ledger} {rate : CommissionRate} {pair : Pair}
    {order : SwapOrder} {result : SwapResult} {side : Side}
    (accepted : Exchange.swap ledger rate pair order = .ok result)
    (offered : order.offer.info.id = (pair.info side).id)
    (bounded : select order.beliefPrice order.maxSpread order.expectedReturn = maxSpread limit) :
    let marginal := Curve.marginal ((ledger.pool pair side).amount - order.offer.amount)
      (ledger.pool pair side.other).amount order.offer.amount
    let gross := result.returned.amount + result.commission
    gross ≤ marginal ∧ (marginal - gross) * unit < (limit.atomics + 1) * marginal := by
  intro marginal gross
  obtain ⟨sold, fill, terms⟩ := Exchange.swap_eq_ok_iff.1 accepted
  -- The pair looks the side up by the offer, so it is the one named here.
  cases (Pair.sideOf_eq_ok_iff.2 terms.offered).symm.trans (Pair.sideOf_eq_ok_iff.2 offered)
  obtain ⟨⟨offerFunded, -⟩, -, exactly⟩ := Curve.fill_eq_ok_iff.1 terms.priced
  have total : fill.returned + fill.commission + fill.spread = marginal := by
    rw [exactly, Curve.returned_add_commission]
    exact Curve.gross_add_spread offerFunded rate
  have paid : gross = fill.returned + fill.commission := by
    simp only [gross, terms.returned, terms.commission]
  have lost : marginal - gross = fill.spread := by omega
  have passed := terms.bounded
  rw [bounded] at passed
  rw [lost, ← total]
  exact ⟨by omega, lt_of_check_maxSpread passed⟩

/-- On native amounts the bound in force decides as it says in integers, and never fails to. A
    swap that was held against a limit alone lost less of its output at the old price than the
    limit and an atom. -/
theorem decides_in_integers (beliefPrice maxSpread : Option Fixed) (expected : Option Int)
    (offerSmall : offer ≤ amountMax) (returnedSmall : returned ≤ amountMax)
    (commissionSmall : commission ≤ amountMax) (spreadSmall : spread ≤ amountMax)
    (priceSmall : ∀ price, beliefPrice = some price → price.atomics ≤ wideMax) :
    let result := Request.checkSpread beliefPrice maxSpread (Request.expectation expected)
      (.int offer) (.int returned) (.int commission) (.int spread)
    (result = decision beliefPrice maxSpread expected offer returned commission spread ∧
      (select beliefPrice maxSpread expected).check offer returned commission spread = result ∧
      ∀ cause, result ≠ .error (.overflow cause)) ∧
    ∀ ledger rate pair (order : SwapOrder) result side limit,
      Exchange.swap ledger rate pair order = .ok result →
      order.offer.info.id = (pair.info side).id →
      (order.expectedReturn = none ∧ order.beliefPrice = none ∧ order.maxSpread = some limit) →
      let marginal := Curve.marginal ((ledger.pool pair side).amount - order.offer.amount)
        (ledger.pool pair side.other).amount order.offer.amount
      let gross := result.returned.amount + result.commission
      gross ≤ marginal ∧ (marginal - gross) * unit < (limit.atomics + 1) * marginal := by
  intro result
  have totalSmall : returned + commission + spread ≤ wideMax :=
    (Nat.add_le_add (Nat.add_le_add returnedSmall commissionSmall) spreadSmall).trans
      three_amounts_le_wideMax
  have decided := check_eq_decision beliefPrice maxSpread expected offerSmall spreadSmall
    totalSmall priceSmall
  have asked : result = _ := Request.checkSpread_int beliefPrice maxSpread expected
  refine ⟨⟨asked.trans decided, asked.symm, ?_⟩, ?_⟩
  · intro cause
    rw [asked, decided]
    exact decision_ne_overflow _ _ _ _ _ _ _ cause
  · rintro ledger rate pair order result side limit accepted offered ⟨noReturn, noPrice, limited⟩
    apply spread_within_limit accepted offered
    rw [noReturn, noPrice, limited]
    rfl

/-- A swap that loses eight hundredths of its output, with a limit of just that. -/
def sampleLimited : SwapOrder :=
  { sender := "trader"
    offer := Session.sampleAsset .second 300
    maxSpread := some ⟨80000000000000000⟩ }

/-- The smallest price makes for the largest expectation, and of two limits that are an atom
    apart only the larger one is kept. -/
theorem decides_in_integers_sample :
    let least : Fixed := ⟨1⟩
    let ledger := (Session.sampleFunded.run [.receive "trader" sampleLimited.offer]).ledger
    (amountMax ≤ amountMax ∧ 0 ≤ amountMax ∧ least.atomics ≤ wideMax) ∧
      Request.checkSpread (some least) (some ⟨unit - 1⟩) .null (.int amountMax) (.int amountMax)
        (.int 0) (.int 0) = .ok () ∧
      Request.checkSpread (some least) (some ⟨unit - 2⟩) .null (.int amountMax) (.int amountMax)
        (.int 0) (.int 0) =
          .error (.beliefSpread (amountMax * unit : Nat) amountMax ⟨unit - 2⟩) ∧
      ∃ result, Exchange.swap ledger .standard Session.sample.pair sampleLimited = .ok result ∧
        result.returned.amount + result.commission = 69 ∧
        (75 - 69) * unit < (80000000000000000 + 1) * 75 := by
  intro least ledger
  have small : amountMax ≤ amountMax ∧ 0 ≤ amountMax ∧ least.atomics ≤ wideMax := by
    decide +kernel
  have priceSmall : ∀ price, some least = some price → price.atomics ≤ wideMax := by
    rintro price ⟨⟩
    exact small.2.2
  have decided (limit : Fixed) := decides_in_integers (some least) (some limit) none small.1 small.1
    small.2.1 small.2.1 priceSmall
  obtain ⟨⟨kept, -⟩, within⟩ := decided ⟨unit - 1⟩
  obtain ⟨⟨refused, -⟩, -⟩ := decided ⟨unit - 2⟩
  have swapped : (fun result : SwapResult => result.returned.amount + result.commission) <$>
      Exchange.swap ledger .standard Session.sample.pair sampleLimited = .ok 69 := by
    decide +kernel
  obtain ⟨result, accepted, paid⟩ := map_eq_ok.1 swapped
  have atOldPrice : Curve.marginal ((ledger.pool Session.sample.pair .second).amount - 300)
      (ledger.pool Session.sample.pair .first).amount 300 = 75 := by decide +kernel
  have lost := (within ledger .standard Session.sample.pair sampleLimited result .second _ accepted
    rfl ⟨rfl, rfl, rfl⟩).2
  rw [paid] at lost
  refine ⟨small, kept.trans (by decide +kernel), refused.trans (by decide +kernel), result, accepted,
    paid, ?_⟩
  rw [← atOldPrice]
  exact lost

/-- An expected return of more than 4300 digits is missed, but cannot be named. -/
theorem illegible_expectation :
    Request.checkSpread none none (Request.expectation (some (10 ^ 5000 : Nat))) (.int 1) (.int 1)
        (.int 0) (.int 0) = .error (.badValue .illegible) ∧
      ¬ ∃ returned expected, Request.checkSpread none none
        (Request.expectation (some (10 ^ 5000 : Nat))) (.int 1) (.int 1) (.int 0) (.int 0) =
          .error (.belowExpected returned expected) := by
  have refused : Request.checkSpread none none (Request.expectation (some (10 ^ 5000 : Nat)))
      (.int 1) (.int 1) (.int 0) (.int 0) = .error (.badValue .illegible) := by decide +kernel
  refine ⟨refused, ?_⟩
  rintro ⟨returned, expected, missed⟩
  cases refused.symm.trans missed

end VeiledPool.SpreadBound
