import VeiledPool.Fixed.Arith

/-! # Spread bounds of a swap

A caller may bound a swap in three ways. Exactly one bound is in force, by
priority: an expected return, then a believed price together with a limit, then
a limit alone. A believed price without a limit bounds nothing.
-/

namespace VeiledPool

/-- The bound in force for one swap. -/
inductive SpreadBound where
  /-- The net output must reach this amount. -/
  | expectedReturn (expected : Int)
  /-- The gross output may fall short of the believed price by this share. -/
  | beliefPrice (price limit : Fixed)
  /-- The spread may take this share of the output without spread. -/
  | maxSpread (limit : Fixed)
  /-- Any output is accepted. -/
  | unbounded
  deriving DecidableEq, Repr

namespace SpreadBound

/-- Chooses the bound from what the caller supplied. -/
def select (beliefPrice maxSpread : Option Fixed) (expectedReturn : Option Int) : SpreadBound :=
  match expectedReturn, beliefPrice, maxSpread with
  | some expected, _, _ => .expectedReturn expected
  | none, some price, some limit => .beliefPrice price limit
  | none, none, some limit => .maxSpread limit
  | none, _, none => .unbounded

/-- Refuses a swap whose output breaks the bound. -/
def check (offer returned commission spread : Int) : SpreadBound → Except Fault Unit
  | .expectedReturn expected =>
    if returned < expected then
      .error (Fault.belowExpected (.int returned) (.int expected)).raised
    else .ok ()
  | .beliefPrice price limit => do
    let gross := returned + commission
    let inverse ← price.reciprocal
    let expected ← inverse.scale offer
    if gross < expected then
      let lacking ← Fixed.ofRatio (excess expected gross) expected
      if limit < lacking then .error (Fault.beliefSpread expected gross limit).raised else .ok ()
    else .ok ()
  | .maxSpread limit =>
    let total := returned + commission + spread
    if total = 0 then .error (.degenerate .noOutput)
    else do
      let lost ← Fixed.ofRatio spread total
      if limit < lost then .error (Fault.spread spread total limit).raised else .ok ()
  | .unbounded => .ok ()

end SpreadBound

end VeiledPool
