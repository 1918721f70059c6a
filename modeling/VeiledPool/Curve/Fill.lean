import VeiledPool.Curve.Rate
import VeiledPool.Wide.Basic

/-! # Swaps along the curve

A swap keeps the product of the reserves from falling. The gross output is what
the product allows, rounded in the pool's favour; the spread is what the output
lacks against the price before the swap; the commission is taken from the output
and stays in the pool. Whoever acts on a fill first holds it against the product.
-/

namespace VeiledPool.Curve

/-- What a swap pays and where it leaves the reserves. -/
structure Fill where
  /-- Output that leaves the pool. -/
  returned : Nat
  /-- Output lost against the price before the swap. -/
  spread : Nat
  /-- Output kept by the pool. -/
  commission : Nat
  newOfferPool : Nat
  newAskPool : Nat
  /-- Product of the reserves before the swap. -/
  productBefore : Nat
  /-- Product of the reserves after the swap. -/
  productAfter : Nat
  deriving DecidableEq, Repr

/-- Prices an offer against reserves that do not hold it yet. -/
def fill (offerPool askPool offer : Nat) (rate : CommissionRate) : Except Fault Fill :=
  if offerPool = 0 ∨ askPool = 0 then
    .error (Fault.degenerate (.emptyForSwap offerPool askPool)).raised
  else do
    let product ← Wide.require (.reserveProduct offerPool askPool)
      (Wide.mul (Wide.lift offerPool) (Wide.lift askPool))
    let gross ← Wide.require (.grossOutput askPool product offerPool offer)
      (Wide.sub (Wide.lift askPool)
        (Wide.divCeil (some product) (Wide.add (Wide.lift offerPool) (Wide.lift offer))))
    let marginal ← Wide.require (.marginalOutput offer askPool offerPool)
      (Wide.div (Wide.mul (Wide.lift offer) (Wide.lift askPool)) (Wide.lift offerPool))
    let fee ← Wide.require (.commission gross rate.nom rate.denom)
      (Wide.div (Wide.mul (Wide.lift gross) (Wide.lift rate.nom)) (Wide.lift rate.denom))
    let net ← Wide.require (.netOutput gross fee) (Wide.sub (Wide.lift gross) (Wide.lift fee))
    let returned ← narrow "return_amount" net
    let spread ← narrow "spread_amount" (excess marginal gross)
    let commission ← narrow "commission_amount" fee
    pure {
      returned, spread, commission
      newOfferPool := offerPool + offer
      newAskPool := askPool - returned
      productBefore := product.toNat
      productAfter := (offerPool + offer) * (askPool - returned) }

/-- Refuses a fill after which the product of the reserves would be smaller. -/
def Fill.guard (fill : Fill) : Except Fault Fill :=
  if fill.productAfter < fill.productBefore then
    .error (Fault.productLoss fill.productAfter fill.productBefore).raised
  else .ok fill

/-- Prices an offer and holds the result against the product. -/
def guardedFill (offerPool askPool offer : Nat) (rate : CommissionRate) : Except Fault Fill := do
  let fill ← fill offerPool askPool offer rate
  fill.guard

end VeiledPool.Curve
