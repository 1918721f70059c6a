import VeiledPool.Curve.Fill
import VeiledPool.Curve.Quote
import VeiledPool.Liquidity
import VeiledPool.Pair.Basic
import VeiledPool.Scalar.Admission
import VeiledPool.Scalar.Equality
import VeiledPool.Veil

/-! # Pricing requests

The computations of the pool for callers that hold values of unknown type. Every
argument is checked for its type and its range before the next one is looked at,
except that both terms of a rate are integers before either range is checked. A
side is named by its position, zero or one, and an offer of unknown type counts
towards its volume if the two add up to an integer.
-/

namespace VeiledPool.Request

def rate (nom denom : Scalar) : Except Fault CommissionRate := do
  let nom ← nom.integer "commission_rate_nom"
  let denom ← denom.integer "commission_rate_denom"
  CommissionRate.forPricing nom denom

def fill (offerPool askPool offer nom denom : Scalar) : Except Fault Curve.Fill := do
  let offerPool ← offerPool.amount "offer_pool"
  let askPool ← askPool.amount "ask_pool"
  let offer ← offer.amount "offer_amount"
  let rate ← rate nom denom
  Curve.fill offerPool askPool offer rate

/-- Prices an offer and holds the result against the product. -/
def guardedFill (offerPool askPool offer nom denom : Scalar) : Except Fault Curve.Fill := do
  let fill ← fill offerPool askPool offer nom denom
  fill.guard

/-- Quotes the offer for a requested amount. -/
def quote (offerPool askPool ask nom denom : Scalar) : Except Fault Curve.Quote := do
  let offerPool ← offerPool.amount "offer_pool"
  let askPool ← askPool.amount "ask_pool"
  let ask ← ask.amount "ask_amount"
  let rate ← rate nom denom
  Curve.quote offerPool askPool ask rate

/-- Shares of the first deposit. -/
def initialShares (deposit0 deposit1 : Scalar) : Except Fault Nat := do
  let deposit0 ← deposit0.amount "deposit0"
  let deposit1 ← deposit1.amount "deposit1"
  Liquidity.initialShares deposit0 deposit1

/-- Shares of a later deposit. -/
def additionalShares (deposit0 deposit1 pool0 pool1 totalShare : Scalar) :
    Except Fault Nat := do
  let deposit0 ← deposit0.amount "deposit0"
  let deposit1 ← deposit1.amount "deposit1"
  let pool0 ← pool0.amount "pool0"
  let pool1 ← pool1.amount "pool1"
  let totalShare ← totalShare.amount "total_share"
  Liquidity.additionalShares deposit0 deposit1 pool0 pool1 totalShare

/-- Payout of one reserve for burned shares. -/
def withdrawal (reserve burned totalShare : Scalar) : Except Fault Nat := do
  let reserve ← reserve.amount "reserve"
  let burned ← burned.amount "burn_amount"
  let totalShare ← totalShare.amount "total_share"
  Liquidity.withdrawal reserve burned totalShare

/-- The veil of a draw of unknown type. -/
def veil (draw : Scalar) : Except Fault Veil := do
  let draw ← draw.integer "draw"
  Veil.ofInt draw

/-- A figure under a veil with terms of unknown type. -/
def cover (nom denom amount : Scalar) : Except Fault Nat := do
  let amount ← amount.integer "value"
  let nom ← nom.integer "value"
  let denom ← denom.integer "value"
  (Veil.mk nom denom).cover amount

/-- Takes a value of unknown type into the range of an amount. -/
def narrow (value : Scalar) (quantity : String) : Except Fault Nat := do
  let value ← value.integer quantity
  VeiledPool.narrow quantity value

/-! ## Volumes -/

/-- The side at a position of unknown type. -/
def sideAt (position : Scalar) : Except Fault Side :=
  if position.equals (.int 0) then .ok .first
  else if position.equals (.int 1) then .ok .second
  else .error (.badValue (.side position))

/-- Adds an offer to the volume of one side. -/
def addVolume (pair : Pair) (side : Side) (amount : Scalar) : Except Fault Pair := do
  let volume : Int := pair.volume side
  let sum ← (Scalar.int volume).plus amount
  let sum ← sum.integer (Pair.volumeName side)
  pair.addVolume side (sum - volume)

end VeiledPool.Request
