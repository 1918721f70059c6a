import VeiledPool.Fault.Cause

/-! # Faults

Everything that the library refuses to do ends in a `Fault`: its constructor is
the kind that callers branch on, its argument the cause. Seven kinds concern the
pool itself and carry a stable code; the others concern the request.

A fault is raised together with its report, and a report cannot show an integer of
more than `longestFigure` digits: a fault that would have to is not raised, and an
illegible value is in its place.
-/

namespace VeiledPool

/-- The reason for a refusal. -/
inductive Fault where
  /-- A result does not exist or does not fit its range. -/
  | overflow (cause : Overflow)
  /-- A ratio lacks a positive divisor. -/
  | degenerate (cause : Degeneracy)
  /-- The assets do not fit the pair. -/
  | invalidAsset (cause : AssetMismatch)
  /-- A deposit's price is too far from the pool's. -/
  | slippage (tolerance : Fixed) (deposit0 deposit1 pool0 pool1 : Int)
  /-- A swap falls short of the believed price by more than its limit. -/
  | beliefSpread (expected gross : Int) (limit : Fixed)
  /-- A swap's own spread is beyond its limit. -/
  | spread (lost total : Int) (limit : Fixed)
  /-- A swap returns less than the caller asked for. -/
  | belowExpected (returned expected : Scalar)
  /-- A swap would leave the product of the reserves smaller than it was. -/
  | productLoss (after before : Nat)
  /-- A value is not admissible. -/
  | badValue (cause : BadValue)
  /-- A value has the wrong type. -/
  | wrongType (cause : WrongType)
  /-- A number is too large to be worked with. -/
  | oversize (cause : Oversize)
  /-- A script of draws has run out. -/
  | exhausted (taken : Nat)
  /-- A source of draws that takes in no data was given some. -/
  | closedSource
  /-- A document cannot be read at all. -/
  | malformed
  deriving DecidableEq, Repr

/-- Digits of the longest integer that can be written out. -/
def longestFigure : Nat := 4300

/-- An integer that can be written out. -/
def Legible (value : Int) : Prop :=
  value.natAbs < Nat.pow 10 longestFigure

instance (value : Int) : Decidable (Legible value) := inferInstanceAs (Decidable (_ < _))

-- Nothing but the kernel should ever compute the bound.
attribute [irreducible] Legible

/-- A text that shows some integers. -/
def written {α : Type} (figures : List Int) (text : α) : Except Fault α :=
  if ∀ figure ∈ figures, Legible figure then .ok text else .error (.badValue .illegible)

/-- The integers that a scalar shows. -/
def Scalar.figures : Scalar → List Int
  | .int value => [value]
  | _ => []

/-- The integers that a report of an overflow shows; of a ratio it is the whole part. -/
def Overflow.figures : Overflow → List Int
  | .reserveProduct offerPool askPool => [offerPool, askPool]
  | .grossOutput askPool product offerPool offer => [askPool, product, offerPool, offer]
  | .marginalOutput offer askPool offerPool => [offer, askPool, offerPool]
  | .commission gross nom denom => [gross, nom, denom]
  | .netOutput gross fee => [gross, fee]
  | .requiredOffer product askPool beforeCommission offerPool =>
    [product, askPool, beforeCommission, offerPool]
  | .offerBeyondReserve offer reserve => [offer, reserve]
  | .depositBeyondReserve deposit _ reserve => [deposit, reserve]
  | .initialShares deposit0 deposit1 => [deposit0, deposit1]
  | .proRata _ deposit totalShare pool => [deposit, totalShare, pool]
  | .refund reserve burned totalShare => [reserve, burned, totalShare]
  | .veiledFigure amount nom denom => [amount, nom, denom]
  | .ratio numerator denominator => [numerator, denominator]
  | .ratioProduct left right => [left.whole, right.whole]
  | .ratioDifference left right => [left.whole, right.whole]
  | .reciprocal divisor => [divisor.whole]
  | .scaledAmount amount factor => [amount, factor.whole]
  | .narrowing _ value => [value]
  | .described _ => []

def Degeneracy.figures : Degeneracy → List Int
  | .ratioByZero numerator => [numerator]
  | .emptyForSwap offerPool askPool | .emptyForQuote offerPool askPool => [offerPool, askPool]
  | .emptyForDeposit pool0 pool1 => [pool0, pool1]
  | .rateDenominator denom => [denom]
  | .exhaustsReserve ask beforeCommission askPool => [ask, beforeCommission, askPool]
  | .worthlessDeposit deposit0 deposit1 totalShare => [deposit0, deposit1, totalShare]
  | .reciprocalOfZero | .noShares | .noOutput => []

def BadValue.figures : BadValue → List Int
  | .negative _ value | .negativeBalance value | .draw value => [value]
  | .negativeVolumes volume0 volume1 => [volume0, volume1]
  | .rateDenominator denom => [denom]
  | .rateNumerator nom denom => [nom, denom]
  | .side given => given.figures
  | .balanceShortfall _ _ current delta => [current, delta, current + delta]
  | .shareShortfall _ current amount => [current, amount]
  | _ => []

namespace Fault

/-- The integers that a report of the fault shows. -/
def figures : Fault → List Int
  | overflow cause => cause.figures
  | degenerate cause => cause.figures
  | slippage tolerance deposit0 deposit1 pool0 pool1 =>
    [tolerance.whole, deposit0, deposit1, pool0, pool1]
  | beliefSpread expected gross limit => [expected, gross, limit.whole]
  | spread lost total limit => [lost, total, limit.whole]
  | belowExpected returned expected => returned.figures ++ expected.figures
  | productLoss after before => [after, before]
  | badValue cause => cause.figures
  | wrongType (.assetKind given) => given.figures
  | wrongType _ | invalidAsset _ | oversize _ | exhausted _ | closedSource | malformed => []

/-- The fault that is raised for this one: itself, if its report can be written. -/
@[irreducible]
def raised (fault : Fault) : Fault :=
  if ∀ figure ∈ fault.figures, Legible figure then fault else .badValue .illegible

theorem raised_of_legible {fault : Fault} (legible : ∀ figure ∈ fault.figures, Legible figure) :
    fault.raised = fault := by
  unfold raised
  exact if_pos legible

theorem raised_of_illegible {fault : Fault} {figure : Int} (shown : figure ∈ fault.figures)
    (long : ¬ Legible figure) : fault.raised = .badValue .illegible := by
  unfold raised
  exact if_neg fun legible => long (legible figure shown)

/-- Stable code of the kinds that concern the pool. -/
def code? : Fault → Option String
  | overflow _ => some "arithmetic_overflow"
  | degenerate _ => some "degenerate_state"
  | invalidAsset _ => some "invalid_asset"
  | slippage .. => some "slippage_exceeded"
  | beliefSpread .. | spread .. => some "spread_exceeded"
  | belowExpected .. => some "return_below_expected"
  | productLoss .. => some "invariant_violation"
  | badValue _ | wrongType _ | oversize _ | exhausted _ | closedSource | malformed => none

end Fault

end VeiledPool
