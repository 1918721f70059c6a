import VeiledPool.Proofs.Fault.Sequence
import VeiledPool.Request.Guard

/-! # Guard requests in integers

A request admits one argument after the other and then asks the guard itself. If
all of them are integers, the steps in between decide nothing that the guard does
not decide the same way.
-/

namespace VeiledPool.Request

/-- An expected return as callers write it, who need not expect any. -/
def expectation : Option Int → Scalar
  | some expected => .int expected
  | none => .null

variable {price limit : Fixed} {offer returned commission spread : Int}

theorem checkReturn_int (expected : Int) :
    checkReturn (.int expected) (.int returned) =
      (SpreadBound.expectedReturn expected).check offer returned commission spread := by
  simp only [checkReturn, Scalar.below_int, ok_bind, decide_eq_true_eq]
  rfl

theorem checkBelief_int :
    checkBelief price limit (.int offer) (.int (returned + commission)) =
      (SpreadBound.beliefPrice price limit).check offer returned commission spread := by
  simp only [checkBelief, SpreadBound.check, Scalar.integer, Scalar.above_int, ok_bind,
    decide_eq_true_eq, Int.add_zero]
  cases price.reciprocal with
  | error fault => simp only [error_bind]
  | ok inverse =>
    simp only [ok_bind]
    cases inverse.scale offer with
    | error fault => simp only [error_bind]
    | ok expected =>
      simp only [ok_bind]
      split <;> rfl

theorem checkShare_int :
    checkShare limit (.int (returned + commission)) (.int spread) =
      (SpreadBound.maxSpread limit).check offer returned commission spread := by
  simp only [checkShare, SpreadBound.check, Scalar.plus_int, Scalar.equals_int, Scalar.integer,
    ok_bind, decide_eq_true_eq, Int.add_zero, Int.sub_add_cancel]
  split <;> rfl

theorem checkSpread_int (beliefPrice maxSpread : Option Fixed) (expected : Option Int) :
    checkSpread beliefPrice maxSpread (expectation expected) (.int offer) (.int returned)
        (.int commission) (.int spread) =
      (SpreadBound.select beliefPrice maxSpread expected).check offer returned commission
        spread := by
  cases expected with
  | some expected => exact checkReturn_int expected
  | none =>
    cases beliefPrice <;> cases maxSpread
    case some.some => exact checkBelief_int
    case none.some => exact checkShare_int
    all_goals rfl

theorem checkSlippage_int (tolerance : Fixed) (deposit0 deposit1 pool0 pool1 : Int) :
    checkSlippage tolerance (.int deposit0) (.int deposit1) (.int pool0) (.int pool1) =
      Slippage.check tolerance deposit0 deposit1 pool0 pool1 := by
  simp only [checkSlippage, Slippage.check, Slippage.exceeds, Scalar.integer, ok_bind]
  cases Fixed.one.minus tolerance with
  | error fault => simp only [error_bind]
  | ok kept =>
    simp only [ok_bind]
    cases Fixed.ofRatio deposit0 deposit1 with
    | error fault => simp only [error_bind]
    | ok price =>
      simp only [ok_bind]
      cases price.times kept with
      | error fault => simp only [error_bind]
      | ok tolerated => simp only [ok_bind]

end VeiledPool.Request
