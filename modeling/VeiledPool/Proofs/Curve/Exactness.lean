import Mathlib.Order.Bounds.Basic
import Mathlib.Tactic.Linarith
import VeiledPool.Proofs.Curve.Failure
import VeiledPool.Proofs.Request.Pricing

/-! # Exact swaps

A swap of any size is priced exactly or not at all. It pays the largest output
that keeps the product of the reserves, less the commission on it, and where it
is refused a number was out of range, if perhaps too long to be named.
-/

namespace VeiledPool.Curve

variable {offerPool askPool offer : Nat} {rate : CommissionRate} {fill : Fill}

/-- The gross output is the largest one after which the product is not smaller. -/
theorem le_gross_iff (offerFunded : 0 < offerPool) (payout : Int) :
    payout ≤ gross offerPool askPool offer ↔
      (offerPool * askPool : Int) ≤ (offerPool + offer) * (askPool - payout) := by
  have positive : (0 : Int) < (offerPool + offer : Nat) := by omega
  have paid : (offerPool + offer : Int) * (askPool - payout) =
      offerPool * askPool + (askPool * offer - payout * (offerPool + offer)) := by ring
  rw [gross, Int.natCast_ediv, Int.le_ediv_iff_mul_le positive, paid]
  push_cast
  constructor <;> intro kept <;> linarith

/-- What a fill says of the reserves and the offer that it was made for. -/
structure Exact (offerPool askPool offer : Nat) (rate : CommissionRate) (fill : Fill) : Prop where
  returned : fill.returned = gross offerPool askPool offer -
    rate.feeOn (gross offerPool askPool offer)
  commission : fill.commission = rate.feeOn (gross offerPool askPool offer)
  /-- The difference of two integers, so nothing was cut off at zero. -/
  spread : (fill.spread : Int) = marginal offerPool askPool offer - gross offerPool askPool offer
  gross_lt : gross offerPool askPool offer < askPool
  largest : IsGreatest
    {payout : Int | (offerPool * askPool : Int) ≤ (offerPool + offer) * (askPool - payout)}
    (gross offerPool askPool offer)
  productBefore : fill.productBefore = offerPool * askPool
  product_le : fill.productBefore ≤ fill.productAfter

theorem exact_exactFill (offerFunded : 0 < offerPool) (askFunded : 0 < askPool) :
    Exact offerPool askPool offer rate (exactFill offerPool askPool offer rate) where
  returned := rfl
  commission := rfl
  spread := Int.ofNat_sub (gross_le_marginal offerFunded)
  gross_lt := gross_lt offerFunded askFunded offer
  largest := ⟨(le_gross_iff offerFunded _).1 le_rfl, fun _ => (le_gross_iff offerFunded _).2⟩
  productBefore := rfl
  product_le := product_le_of_le_gross (returned_le_gross rate)

/-- A rate that leaves a commission of one on the gross output of the next example. -/
def sampleRate : CommissionRate :=
  ⟨1, 2 ^ 127, by decide, by decide⟩

end VeiledPool.Curve
