import VeiledPool.Guard.Slippage
import VeiledPool.Guard.Spread
import VeiledPool.Scalar.Admission
import VeiledPool.Scalar.Equality

/-! # Guard requests

The guards look at an argument only when they need it, so a value of the wrong
type goes unnoticed if an earlier comparison already decides. The checks here
admit each argument at the point where the guard first uses it; until then
whatever has a sum and an order is added and compared.
-/

namespace VeiledPool.Request

/-- Checks a net output against an expected one. -/
def checkReturn (expected returned : Scalar) : Except Fault Unit := do
  if ← returned.below expected then .error (Fault.belowExpected returned expected).raised
  else .ok ()

/-- Checks a gross output against a believed price. The offer is needed only
    once the price has a reciprocal, and the output has to be an integer only if
    it falls short. -/
def checkBelief (price limit : Fixed) (offer gross : Scalar) : Except Fault Unit := do
  let inverse ← price.reciprocal
  let offer ← offer.integer "amount"
  let expected ← inverse.scale offer
  if ← (Scalar.int expected).above gross then
    let gross ← gross.integer "numerator"
    (SpreadBound.beliefPrice price limit).check offer gross 0 0
  else .ok ()

/-- Checks a spread against a limit. Nothing can be said of an output of zero,
    whatever its type. -/
def checkShare (limit : Fixed) (gross spread : Scalar) : Except Fault Unit := do
  let total ← gross.plus spread
  if total.equals (.int 0) then .error (.degenerate .noOutput)
  else
    let spread ← spread.integer "numerator"
    let total ← total.integer "denominator"
    (SpreadBound.maxSpread limit).check 0 (total - spread) 0 spread

def checkSpread (beliefPrice maxSpread : Option Fixed)
    (expected offer returned commission spread : Scalar) : Except Fault Unit :=
  if expected ≠ .null then checkReturn expected returned
  else
    match SpreadBound.select beliefPrice maxSpread none with
    | .beliefPrice price limit => do
      let gross ← returned.plus commission
      checkBelief price limit offer gross
    | .maxSpread limit => do
      let gross ← returned.plus commission
      checkShare limit gross spread
    | .expectedReturn _ | .unbounded => .ok ()

/-- Checks a deposit against its tolerance: first the deposit's own price, then
    the pool's. -/
def checkSlippage (tolerance : Fixed) (deposit0 deposit1 pool0 pool1 : Scalar) :
    Except Fault Unit := do
  let kept ← Fixed.one.minus tolerance
  let deposit0 ← deposit0.integer "numerator"
  let deposit1 ← deposit1.integer "denominator"
  let offered ← Fixed.ofRatio deposit0 deposit1
  let _ ← offered.times kept
  let pool0 ← pool0.integer "numerator"
  let pool1 ← pool1.integer "denominator"
  Slippage.check tolerance deposit0 deposit1 pool0 pool1

end VeiledPool.Request
