import VeiledPool.Fixed.Arith

/-! # Slippage tolerance of a deposit

A deposit names a price by its two amounts. It is refused if, in either
direction, that price less the tolerance still lies above the pool's.
-/

namespace VeiledPool.Slippage

/-- Whether the deposit's price in one direction, scaled by what the tolerance
    leaves, lies above the pool's. -/
def exceeds (kept : Fixed) (deposit0 deposit1 pool0 pool1 : Int) : Except Fault Bool := do
  let offered ← Fixed.ofRatio deposit0 deposit1
  let tolerated ← offered.times kept
  let held ← Fixed.ofRatio pool0 pool1
  pure (held < tolerated)

def check (tolerance : Fixed) (deposit0 deposit1 pool0 pool1 : Int) : Except Fault Unit := do
  let kept ← Fixed.one.minus tolerance
  if ← exceeds kept deposit0 deposit1 pool0 pool1 then
    .error (Fault.slippage tolerance deposit0 deposit1 pool0 pool1).raised
  else if ← exceeds kept deposit1 deposit0 pool1 pool0 then
    .error (Fault.slippage tolerance deposit0 deposit1 pool0 pool1).raised
  else .ok ()

/-- Without a tolerance every deposit passes. -/
def check? (tolerance : Option Fixed) (deposit0 deposit1 pool0 pool1 : Int) :
    Except Fault Unit :=
  match tolerance with
  | some tolerance => check tolerance deposit0 deposit1 pool0 pool1
  | none => .ok ()

end VeiledPool.Slippage
