import VeiledPool.Fixed.Arith
import VeiledPool.Fixed.Reader
import VeiledPool.Scalar.Admission

/-! # Ratios in requests

A caller may give a ratio by its atoms, as a literal, as a quotient or in
hundredths. The parts are checked in the order in which they are written.
-/

namespace VeiledPool

/-- A ratio as a caller gives it. -/
inductive RatioForm where
  | one
  | zero
  | atomics (count : Scalar)
  | literal (text : Scalar)
  | quotient (numerator denominator : Scalar)
  | percent (value : Scalar)
  deriving DecidableEq, Repr

/-- An integer number of atoms. -/
def Fixed.ofAtomics (count : Int) : Except Fault Fixed :=
  if count < 0 then .error (.badValue (.negative "Decimal" count)) else .ok ⟨count.toNat⟩

namespace RatioForm

/-- The ratio itself. -/
def value : RatioForm → Except Fault Fixed
  | one => .ok Fixed.one
  | zero => .ok Fixed.zero
  | atomics count => do
    let count ← count.integer "atomics"
    Fixed.ofAtomics count
  | literal (.text (.text text)) => Fixed.ofText text
  | literal (.text (.broken codes _)) => .error (.badValue (.literal codes))
  | literal _ => .error (.wrongType (.unmet "Decimal literal" .text))
  | quotient numerator denominator => do
    let numerator ← numerator.integer "numerator"
    let denominator ← denominator.integer "denominator"
    Fixed.ofRatio numerator denominator
  | percent value => do
    let value ← value.integer "numerator"
    Fixed.percent value

end RatioForm

/-- An amount of unknown type multiplied by a ratio. -/
def Fixed.scaleScalar (ratio : Fixed) (amount : Scalar) : Except Fault Int := do
  let amount ← amount.integer "amount"
  ratio.scale amount

end VeiledPool
