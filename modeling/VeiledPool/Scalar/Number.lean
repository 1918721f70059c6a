import VeiledPool.Number.Shortest
import VeiledPool.Scalar.Basic

/-! # Scalars as numbers

Integers, truth values and binary fractions are numbers; a truth value counts as
zero or one. Their exact values are compared, whatever their types, so that no
comparison depends on how large integers are rounded.
-/

namespace VeiledPool

/-- Exact value of a finite binary64 number, as numerator and denominator. -/
def exactFloat? (x : Float) : Option (Int × Nat) :=
  if x.isNaN || x.isInf then none
  else
    let parts := Binary64.ofBits (x.toBits &&& 0x7fffffffffffffff)
    let magnitude : Int := (parts.significand * Nat.pow 2 parts.exponent.toNat : Nat)
    some (if x.toBits >>> 63 = 1 then -magnitude else magnitude,
      Nat.pow 2 (-parts.exponent).toNat)

namespace Scalar

/-- Value of an integer or a truth value. -/
def whole? : Scalar → Option Int
  | .int value => some value
  | .bool value => some (if value then 1 else 0)
  | _ => none

/-- Nearest binary64 number. -/
def float? : Scalar → Option Float
  | .float value => some value
  | other => other.whole?.map Float.ofInt

/-- Exact value of a finite number, as numerator and positive denominator. -/
def exactValue? : Scalar → Option (Int × Nat)
  | .float value => exactFloat? value
  | other => other.whole?.map (·, 1)

/-- What a number is next to an infinity: a finite one is like zero. -/
def bound? (scalar : Scalar) : Option Float :=
  if scalar.exactValue?.isSome then some 0.0 else scalar.float?

/-- Whether one number lies below another; what is not a number lies nowhere. -/
def numberBelow? (left right : Scalar) : Option Bool :=
  match left.exactValue?, right.exactValue? with
  | some (a, d), some (b, e) => some (a * e < b * d)
  | _, _ => do
    let x ← left.bound?
    let y ← right.bound?
    pure (x < y)

@[simp]
theorem numberBelow?_int (a b : Int) :
    numberBelow? (.int a) (.int b) = some (decide (a < b)) := by
  simp [numberBelow?, exactValue?, whole?]

end Scalar

end VeiledPool
