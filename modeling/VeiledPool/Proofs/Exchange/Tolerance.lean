import VeiledPool.Proofs.Exchange.Terms
import VeiledPool.Proofs.Guard.Slippage
import VeiledPool.Proofs.Session.Turn

/-! # The tolerance of a deposit

A pair takes the native coins of a deposit out of its reserves again before it holds
the deposit against them, since the ledger has received those coins already.
-/

namespace VeiledPool.Slippage

open Fixed (unit)

theorem eq_sub_of_reserveBefore {held : Asset} {amount before : Nat}
    (computed : Exchange.reserveBefore held amount = .ok before) :
    before = held.amount - if held.info.isNative then amount else 0 := by
  have answer := Exchange.reserveBefore_eq_ok_iff.1 computed
  by_cases native : held.info.isNative
  · rw [if_pos native] at answer ⊢
    exact answer.2.2
  · rw [if_neg native] at answer ⊢
    exact answer

/-- The reserves that a deposit is held against. -/
def reservesBefore (ledger : Ledger) (pair : Pair) (deposit : Side → Nat) (side : Side) : Nat :=
  (ledger.pool pair side).amount - if (pair.info side).isNative then deposit side else 0

theorem provide_nearlyWithin {ledger : Ledger} {pair : Pair} {order : ProvideOrder}
    {result : ProvideResult} {tolerance : Fixed}
    (accepted : Exchange.provide ledger pair order = .ok result)
    (given : order.tolerance = some tolerance) :
    let deposit side := (side.of result.deposits).amount
    (∀ side, 0 < reservesBefore ledger pair deposit side) →
      ∀ side, NearlyWithin tolerance deposit (reservesBefore ledger pair deposit) side := by
  intro deposit funded
  obtain ⟨deposit0, deposit1, before0, before1, terms⟩ := Exchange.provide_eq_ok_iff.1 accepted
  have first : deposit .first = deposit0 := by simp only [deposit, terms.deposits, Side.of_first]
  have second : deposit .second = deposit1 := by simp only [deposit, terms.deposits, Side.of_second]
  have left0 : before0 = reservesBefore ledger pair deposit .first := by
    rw [eq_sub_of_reserveBefore terms.first, ← first]
    rfl
  have left1 : before1 = reservesBefore ledger pair deposit .second := by
    rw [eq_sub_of_reserveBefore terms.second, ← second]
    rfl
  have passed := terms.tolerated (by rw [left0, left1]; exact ⟨funded _, funded _⟩)
  rw [given, left0, left1, ← first, ← second] at passed
  exact nearlyWithin_of_check funded passed

/-- On native amounts the guard lets every deposit within its tolerance pass and none that is two
    atoms beyond it, from whichever side it looks. A pair holds the deposits it accepts to the
    same bound. -/
theorem guards_deposits (tolerance : Fixed) (deposit pool : Side → Nat)
    (native : ∀ side, deposit side ≤ amountMax ∧ pool side ≤ amountMax)
    (funded : ∀ side, 1 ≤ pool side) :
    (Guards tolerance deposit pool (asked tolerance deposit pool) ∧
      (asked tolerance (deposit ∘ Side.other) (pool ∘ Side.other)).mapError Fault.code? =
        (asked tolerance deposit pool).mapError Fault.code?) ∧
    ∀ ledger pair (order : ProvideOrder) result,
      Exchange.provide ledger pair order = .ok result → order.tolerance = some tolerance →
      let deposit side := (side.of result.deposits).amount
      (∀ side, 0 < reservesBefore ledger pair deposit side) →
        ∀ side, NearlyWithin tolerance deposit (reservesBefore ledger pair deposit) side := by
  refine ⟨⟨guards_of_native native funded, ?_⟩, ?_⟩
  · rw [asked_eq_check, asked_eq_check]
    exact code_exchange native funded
  · intro ledger pair order result accepted given
    exact provide_nearlyWithin accepted given

/-- A coin for more tokens than it should cost, at prices that are both below an atom. -/
def sampleDeposit : Side → Nat
  | .first => 1
  | .second => 1200000000000000000

def samplePool : Side → Nat
  | .first => 1
  | .second => 1500000000000000000

def sampleOrder : ProvideOrder :=
  { sender := "provider"
    assets := [Session.sampleAsset .second 400, Session.sampleAsset .first 100]
    tolerance := some .zero }

/-- Here a deposit passes that is not within its tolerance, but nearly. -/
theorem guards_deposits_sample :
    let ledger :=
      (Session.sampleFunded.run [.receive "provider" (Session.sampleAsset .first 100)]).ledger
    ((∀ side, sampleDeposit side ≤ amountMax ∧ samplePool side ≤ amountMax) ∧
      ∀ side, 1 ≤ samplePool side) ∧
      asked .zero sampleDeposit samplePool = .ok () ∧
      ¬ Within .zero sampleDeposit samplePool .first ∧
      NearlyWithin .zero sampleDeposit samplePool .first ∧
      (asked .zero (sampleDeposit ∘ Side.other) (samplePool ∘ Side.other)).mapError Fault.code? =
        .ok () ∧
      ∃ result, Exchange.provide ledger Session.sample.pair sampleOrder = .ok result ∧
        400 * unit * 1000 < 4000 * 100 * unit + 2 * (100 * 1000) := by
  intro ledger
  have native : ∀ side, sampleDeposit side ≤ amountMax ∧ samplePool side ≤ amountMax := by
    intro side
    cases side <;> decide +kernel
  have funded : ∀ side, 1 ≤ samplePool side := by
    intro side
    cases side <;> decide
  have passed : asked .zero sampleDeposit samplePool = .ok () := by decide +kernel
  obtain ⟨⟨guards, exchanged⟩, provided⟩ := guards_deposits .zero sampleDeposit samplePool native
    funded
  rw [passed] at exchanged
  have answered : (fun result : ProvideResult =>
      (result.deposits.1.amount, result.deposits.2.amount)) <$>
        Exchange.provide ledger Session.sample.pair sampleOrder = .ok (100, 400) := by
    decide +kernel
  obtain ⟨result, accepted, amounts⟩ := map_eq_ok.1 answered
  obtain ⟨first, second⟩ := Prod.mk.inj amounts
  have held0 : (ledger.pool Session.sample.pair .first).amount = 1100 := by decide +kernel
  have held1 : (ledger.pool Session.sample.pair .second).amount = 4000 := by decide +kernel
  have arrived0 : (Session.sample.pair.info .first).isNative = true := rfl
  have arrived1 : (Session.sample.pair.info .second).isNative = false := rfl
  have bounded := provided ledger Session.sample.pair sampleOrder result accepted rfl (by
    intro side
    cases side <;> simp [reservesBefore, first, held0, held1, arrived0, arrived1]) .second
  simp only [NearlyWithin, reservesBefore, Side.other, Side.of_first, Side.of_second, first, second, held0, held1,
    arrived0, arrived1] at bounded
  refine ⟨⟨native, funded⟩, passed, by unfold Within; decide +kernel, guards.bounded passed _,
    exchanged, result, accepted, ?_⟩
  exact bounded

/-- A tolerance of 4301 digits before the point is above one, but cannot be named. -/
theorem illegible_tolerance :
    asked ⟨10 ^ 4318⟩ sampleDeposit samplePool = .error (.badValue .illegible) ∧
      unit < (⟨10 ^ 4318⟩ : Fixed).atomics ∧
      ¬ ∃ cause, asked ⟨10 ^ 4318⟩ sampleDeposit samplePool = .error (.overflow cause) := by
  have refused : asked ⟨10 ^ 4318⟩ sampleDeposit samplePool = .error (.badValue .illegible) := by
    decide +kernel
  refine ⟨refused, by decide +kernel, ?_⟩
  rintro ⟨cause, overflowed⟩
  cases refused.symm.trans overflowed

end VeiledPool.Slippage
