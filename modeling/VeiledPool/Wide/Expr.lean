import VeiledPool.Wide.Basic

/-! # Checked expressions

A formula over checked numbers as a tree. `Expr.eval` computes it with the
operations of `Wide`, operands from left to right; it faults only where an
operation is asked for something that it does not take at all, such as the root
of a negative number.
-/

namespace VeiledPool.Wide

/-- A formula over checked numbers. -/
inductive Expr where
  /-- An integer that is taken as it is, in range or not. -/
  | given (value : Int)
  /-- An operand that is missing. -/
  | absent
  /-- A value admitted to the range. -/
  | lift (operand : Expr)
  | add (left right : Expr)
  | sub (left right : Expr)
  | mul (left right : Expr)
  | div (left right : Expr)
  | divCeil (left right : Expr)
  | root (operand : Expr)
  /-- How far the left operand lies above the right one. -/
  | excess (left right : Expr)
  deriving DecidableEq, Repr, Inhabited

namespace Expr

/-- An operand that must be present. -/
def present : Wide → Except Fault Int
  | some value => .ok value
  | none => .error (.wrongType (.unmet "value" .integer))

def eval : Expr → Except Fault Wide
  | given value => .ok (some value)
  | absent => .ok none
  | lift operand => do
    let value ← present (← operand.eval)
    pure (Wide.lift value)
  | add left right => do
    let a ← left.eval
    let b ← right.eval
    pure (Wide.add a b)
  | sub left right => do
    let a ← left.eval
    let b ← right.eval
    pure (Wide.sub a b)
  | mul left right => do
    let a ← left.eval
    let b ← right.eval
    pure (Wide.mul a b)
  | div left right => do
    let a ← left.eval
    let b ← right.eval
    pure (Wide.div a b)
  | divCeil left right => do
    let a ← left.eval
    let b ← right.eval
    pure (Wide.divCeil a b)
  | root operand => do
    match ← operand.eval with
    | some value =>
      if value < 0 then throw (.badValue .negativeRoot) else pure (Wide.root (some value))
    | none => pure none
  | excess left right => do
    let a ← present (← left.eval)
    let b ← present (← right.eval)
    pure (some (VeiledPool.excess a b))

end Expr

end VeiledPool.Wide
