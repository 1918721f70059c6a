import VeiledPool.Proofs.Curve.Failure
import VeiledPool.Proofs.Exchange.Terms
import VeiledPool.Proofs.Ledger.Execution

/-! # What cannot befall a swap

A swap is refused for many reasons, but never for the product of the reserves,
and once it is accepted the pair can pay. The first holds step by step: no step
of a swap knows of that fault except the guard of a fill, which never uses it.
-/

namespace VeiledPool

variable {α β : Type}

/-- A computation that does not end in a loss of the product. -/
def NoLoss (result : Except Fault α) : Prop :=
  ∀ after before, result ≠ .error (.productLoss after before)

theorem noLoss_ok (value : α) : NoLoss (.ok value : Except Fault α) := by
  simp [NoLoss]

theorem noLoss_bind {step : Except Fault α} {next : α → Except Fault β} (first : NoLoss step)
    (rest : ∀ value, NoLoss (next value)) : NoLoss (step >>= next) := by
  cases step with
  | ok value => exact rest value
  | error fault => simpa [NoLoss, bind, Except.bind] using first

def Fault.Lossless (fault : Fault) : Prop :=
  ∀ after before, fault ≠ .productLoss after before

namespace Fault

theorem lossless_overflow (cause : Overflow) : (overflow cause).Lossless := by
  simp [Lossless]

theorem lossless_degenerate (cause : Degeneracy) : (degenerate cause).Lossless := by
  simp [Lossless]

theorem lossless_illegible : (badValue .illegible).Lossless := by
  simp [Lossless]

theorem Lossless.raised {fault : Fault} (lossless : fault.Lossless) : fault.raised.Lossless := by
  rcases raised_eq_or fault with same | ⟨-, replaced⟩
  · rw [same]
    exact lossless
  · rw [replaced]
    exact lossless_illegible

end Fault

open Fault

theorem noLoss_of_failsOnly {result : Except Fault α} (fails : FailsOnly Lossless result) :
    NoLoss result := by
  intro after before lost
  exact fails _ lost after before rfl

theorem noLoss_error {fault : Fault} (lossless : fault.Lossless) :
    NoLoss (.error fault : Except Fault α) :=
  noLoss_of_failsOnly (failsOnly_error lossless)

theorem SpreadBound.noLoss_check (bound : SpreadBound) (offer returned commission spread : Int) :
    NoLoss (bound.check offer returned commission spread) := by
  cases bound with
  | expectedReturn expected =>
    simp only [check]
    split
    · exact noLoss_error (Lossless.raised (by simp [Lossless]))
    · exact noLoss_ok ()
  | beliefPrice price limit =>
    refine noLoss_bind (noLoss_of_failsOnly (Fixed.failsOnly_reciprocal lossless_overflow
      lossless_degenerate fun _ => lossless_illegible)) fun inverse => ?_
    refine noLoss_bind (noLoss_of_failsOnly (Fixed.failsOnly_scale lossless_overflow
      fun _ => lossless_illegible)) fun expected => ?_
    split
    · refine noLoss_bind (noLoss_of_failsOnly (Fixed.failsOnly_ofRatio lossless_overflow
        lossless_degenerate fun _ => lossless_illegible)) fun lacking => ?_
      split
      · exact noLoss_error (Lossless.raised (by simp [Lossless]))
      · exact noLoss_ok ()
    · exact noLoss_ok ()
  | maxSpread limit =>
    simp only [check]
    split
    · exact noLoss_error (lossless_degenerate _)
    · refine noLoss_bind (noLoss_of_failsOnly (Fixed.failsOnly_ofRatio lossless_overflow
        lossless_degenerate fun _ => lossless_illegible)) fun lost => ?_
      split
      · exact noLoss_error (Lossless.raised (by simp [Lossless]))
      · exact noLoss_ok ()
  | unbounded => exact noLoss_ok ()

namespace Pair

theorem noLoss_sideOf (pair : Pair) (asset : AssetInfo) : NoLoss (pair.sideOf asset) := by
  unfold sideOf
  split
  · exact noLoss_ok _
  · split <;> simp [NoLoss]

theorem noLoss_addVolume (pair : Pair) (side : Side) (amount : Int) :
    NoLoss (pair.addVolume side amount) := by
  refine noLoss_bind (noLoss_of_failsOnly (failsOnly_narrow lossless_overflow
    fun _ => lossless_illegible)) fun volume => ?_
  cases side <;> exact noLoss_ok _

end Pair

namespace Exchange

variable {ledger : Ledger} {rate : CommissionRate} {pair : Pair} {order : SwapOrder}

theorem noLoss_swap (ledger : Ledger) (rate : CommissionRate) (pair : Pair) (order : SwapOrder) :
    NoLoss (swap ledger rate pair order) := by
  refine noLoss_bind (pair.noLoss_sideOf _) fun side => ?_
  refine noLoss_bind (noLoss_of_failsOnly (Wide.failsOnly_require lossless_overflow
    fun _ => lossless_illegible)) fun before => ?_
  refine noLoss_bind (noLoss_of_failsOnly (Curve.failsOnly_guardedFill lossless_overflow
    lossless_degenerate fun _ => lossless_illegible)) fun fill => ?_
  refine noLoss_bind (SpreadBound.noLoss_check _ _ _ _ _) fun _ => ?_
  exact noLoss_bind (pair.noLoss_addVolume _ _) fun next => noLoss_ok _

/-- The pair has what an accepted swap pays, since a fill never pays a whole reserve. -/
theorem swap_applies {result : SwapResult} (accepted : swap ledger rate pair order = .ok result) :
    ∃ books, ledger.books.carryAll ledger.account result.effects = .ok books := by
  obtain ⟨side, fill, terms⟩ := swap_eq_ok_iff.1 accepted
  obtain ⟨⟨offerFunded, askFunded⟩, -, rfl⟩ := Curve.fill_eq_ok_iff.1 terms.priced
  have affordable := (Curve.returned_le_gross rate).trans
    (Curve.gross_lt offerFunded askFunded order.offer.amount).le
  rw [terms.effects, Books.carryAll_singleton]
  exact Books.exists_carry_transfer ledger.books _ _ affordable

end Exchange

end VeiledPool
