import VeiledPool.Wide.Basic

/-! # Arithmetic of ratios

All operations round down and keep their intermediate products within 256 bits.
-/

namespace VeiledPool.Fixed

def ofRatio (numerator denominator : Int) : Except Fault Fixed :=
  if denominator = 0 then .error (Fault.degenerate (.ratioByZero numerator)).raised
  else do
    let atomics ← Wide.require (.ratio numerator denominator)
      (Wide.div (Wide.mul (Wide.lift numerator) (Wide.lift unit)) (Wide.lift denominator))
    pure ⟨atomics.toNat⟩

def percent (value : Int) : Except Fault Fixed :=
  ofRatio value 100

def times (a b : Fixed) : Except Fault Fixed := do
  let atomics ← Wide.require (.ratioProduct a b)
    (Wide.div (Wide.mul (Wide.lift a.atomics) (Wide.lift b.atomics)) (Wide.lift unit))
  pure ⟨atomics.toNat⟩

def minus (a b : Fixed) : Except Fault Fixed := do
  let atomics ← Wide.require (.ratioDifference a b)
    (Wide.sub (Wide.lift a.atomics) (Wide.lift b.atomics))
  pure ⟨atomics.toNat⟩

def reciprocal (a : Fixed) : Except Fault Fixed :=
  if a.atomics = 0 then .error (.degenerate .reciprocalOfZero)
  else do
    let atomics ← Wide.require (.reciprocal a)
      (Wide.div (Wide.lift (unit * unit : Nat)) (Wide.lift a.atomics))
    pure ⟨atomics.toNat⟩

def scale (a : Fixed) (amount : Int) : Except Fault Int :=
  Wide.require (.scaledAmount amount a)
    (Wide.div (Wide.mul (Wide.lift amount) (Wide.lift a.atomics)) (Wide.lift unit))

end VeiledPool.Fixed
