import VeiledPool.Curve.Rate
import VeiledPool.Fixed.Arith

/-! # Quotes for a requested output

The inverse of a swap: the offer that would buy a requested amount. The
commission is first added back to the request through a rounded ratio, so a
quote informs and never moves a balance.
-/

namespace VeiledPool.Curve

structure Quote where
  offer : Nat
  spread : Nat
  commission : Nat
  /-- The request with the commission added back. -/
  beforeCommission : Nat
  deriving DecidableEq, Repr

/-- Quotes the offer that buys `ask` from the given reserves. -/
def quote (offerPool askPool ask : Nat) (rate : CommissionRate) : Except Fault Quote :=
  if offerPool = 0 ∨ askPool = 0 then
    .error (Fault.degenerate (.emptyForQuote offerPool askPool)).raised
  else do
    let product ← Wide.require (.reserveProduct offerPool askPool)
      (Wide.mul (Wide.lift offerPool) (Wide.lift askPool))
    let fee ← Fixed.ofRatio rate.nom rate.denom
    let net ← Fixed.one.minus fee
    let grossUp ← net.reciprocal
    let before ← grossUp.scale ask
    if askPool ≤ before then
      .error (Fault.degenerate (.exhaustsReserve ask before askPool)).raised
    else do
      let offer ← Wide.require (.requiredOffer product askPool before offerPool)
        (Wide.sub (Wide.div (Wide.lift product) (Wide.sub (Wide.lift askPool) (Wide.lift before)))
          (Wide.lift offerPool))
      let price ← Fixed.ofRatio askPool offerPool
      let atPrice ← price.scale offer
      let kept ← fee.scale before
      let offer ← narrow "offer_amount" offer
      let spread ← narrow "spread_amount" (excess atPrice before)
      let commission ← narrow "commission_amount" kept
      pure { offer, spread, commission, beforeCommission := before.toNat }

end VeiledPool.Curve
