import VeiledPool.Text.Points
import VeiledPool.Timestamp.Basic

/-! # Scalars of unknown type

Values that arrive from a document or from an untyped caller. Only an `int` is
ever taken as an amount and only a `text` as a name; the other kinds exist so that
a request can be refused for the right reason.
-/

namespace VeiledPool

/-- A value whose type has not been checked yet. -/
inductive Scalar where
  /-- Nothing was given. -/
  | null
  /-- A truth value; never taken as an amount. -/
  | bool (value : Bool)
  /-- A whole number of any size and sign. -/
  | int (value : Int)
  /-- A binary64 number; never taken as an amount. -/
  | float (value : Float)
  /-- A piece of text, whole or broken. -/
  | text (value : Spelling)
  /-- A day or a moment; never taken as a name. -/
  | time (value : Timestamp)
  deriving DecidableEq, Repr, Inhabited

end VeiledPool
