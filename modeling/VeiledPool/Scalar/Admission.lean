import VeiledPool.Fault.Basic
import VeiledPool.Scalar.Number
import VeiledPool.Text.Order

/-! # Scalars in use

A scalar becomes a number or a name by passing a check of its type and, where
one applies, of its range. The subject of a check is named in its fault. What has
not been admitted can still be added and compared: two numbers can, and so can two
texts, whose sum is one after the other. Scalars of other types have neither sum
nor order. A sum without a binary fraction is exact, a sum with one is a binary
fraction.
-/

namespace VeiledPool.Scalar

/-- An integer of either sign. -/
def integer (subject : String) : Scalar → Except Fault Int
  | .int value => .ok value
  | _ => .error (.wrongType (.unmet subject .integer))

/-- An amount: an integer that is not negative. -/
def amount (subject : String) (scalar : Scalar) : Except Fault Nat := do
  let value ← scalar.integer subject
  if value < 0 then .error (.badValue (.negative subject value))
  else .ok value.toNat

/-- A name: a text that is not empty. -/
def name (subject : String) (scalar : Scalar) :
    Except Fault { name : Spelling // name ≠ "" } :=
  match scalar with
  | text value =>
    if h : value = "" then .error (.badValue (.empty subject)) else .ok ⟨value, h⟩
  | _ => .error (.wrongType (.unmet subject .text))

/-! ## Sums and comparisons -/

/-- Whether one scalar comes before another, if they have an order. -/
def before? (left right : Scalar) : Option Bool :=
  match left, right with
  | .text a, .text b => some (Text.precedes a.points b.points)
  | _, _ => left.numberBelow? right

/-- Whether one scalar lies below another. -/
def below (left right : Scalar) : Except Fault Bool :=
  match left.before? right with
  | some answer => .ok answer
  | none => .error (.wrongType (.unordered "<" left right))

/-- Whether one scalar lies above another. -/
def above (left right : Scalar) : Except Fault Bool :=
  match right.before? left with
  | some answer => .ok answer
  | none => .error (.wrongType (.unordered ">" left right))

/-- A number as a binary fraction that is added to another. -/
def addend (scalar : Scalar) (value : Float) : Except Fault Float :=
  if scalar.whole?.isSome && value.isInf then .error (.oversize .fraction) else .ok value

/-- Sum of two scalars. -/
def plus (left right : Scalar) : Except Fault Scalar :=
  match left, right with
  | .text a, .text b => .ok (.text (a ++ b))
  | _, _ =>
    match left.whole?, right.whole?, left.float?, right.float? with
    | some a, some b, _, _ => .ok (.int (a + b))
    | _, _, some x, some y => do
      let x ← left.addend x
      let y ← right.addend y
      pure (.float (x + y))
    | _, _, _, _ => .error (.wrongType (.unsummable left right))

@[simp]
theorem below_int (a b : Int) : below (.int a) (.int b) = .ok (decide (a < b)) := by
  simp [below, before?]

@[simp]
theorem above_int (a b : Int) : above (.int a) (.int b) = .ok (decide (b < a)) := by
  simp [above, before?]

@[simp]
theorem plus_int (a b : Int) : plus (.int a) (.int b) = .ok (.int (a + b)) := rfl

end VeiledPool.Scalar
