import VeiledPool.Scalar.Number

/-! # Equality of scalars

Numbers are equal by value, whatever their type. What is not a number equals
nothing, itself included. Times are equal if they are the same moment. As keys
of a mapping equal scalars are one, and so is what is not a number: under one
key a mapping has a single entry.
-/

namespace VeiledPool.Scalar

/-- Whether two scalars are equal. -/
def equals (left right : Scalar) : Bool :=
  match left.exactValue?, right.exactValue? with
  | some (a, d), some (b, e) => a * e = b * d
  | none, none =>
    match left, right with
    | .float x, .float y => x == y
    | .time a, .time b => a.sameMoment b
    | _, _ => left = right
  | _, _ => false

/-- Whether a scalar is the binary fraction that is not a number. -/
def isNaN : Scalar → Bool
  | .float value => value.isNaN
  | _ => false

/-- Whether two scalars are one key. -/
def sameKey (left right : Scalar) : Bool :=
  left.isNaN && right.isNaN || left.equals right

@[simp]
theorem equals_text (left right : Spelling) :
    equals (.text left) (.text right) = decide (left = right) := by
  simp [equals, exactValue?, whole?]

@[simp]
theorem equals_int (left right : Int) :
    equals (.int left) (.int right) = decide (left = right) := by
  simp [equals, exactValue?, whole?]

@[simp]
theorem sameKey_text (left right : Spelling) :
    sameKey (.text left) (.text right) = decide (left = right) := by
  simp [sameKey, isNaN]

end VeiledPool.Scalar
