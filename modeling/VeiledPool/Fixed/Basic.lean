import VeiledPool.Text.Written

/-! # Fixed-point ratios

A `Fixed` is a non-negative ratio held as a whole number of atoms, 10^18 of
which make one. Commission rates, tolerances, spread limits and prices are such
ratios; reserves never are. Its numeral has no superfluous zeros.
-/

namespace VeiledPool

/-- A non-negative ratio with eighteen decimal places. -/
structure Fixed where
  /-- The ratio times 10^18. -/
  atomics : Nat
  deriving DecidableEq, Repr

namespace Fixed

/-- Digits behind the point. -/
def places : Nat := 18

/-- Atoms in one. -/
def unit : Nat := Nat.pow 10 places

def zero : Fixed := ⟨0⟩

def one : Fixed := ⟨unit⟩

instance : LT Fixed := ⟨fun a b => a.atomics < b.atomics⟩

instance : LE Fixed := ⟨fun a b => a.atomics ≤ b.atomics⟩

instance (a b : Fixed) : Decidable (a < b) := inferInstanceAs (Decidable (a.atomics < b.atomics))

instance (a b : Fixed) : Decidable (a ≤ b) := inferInstanceAs (Decidable (a.atomics ≤ b.atomics))

theorem lt_def (a b : Fixed) : a < b ↔ a.atomics < b.atomics := Iff.rfl

/-- The characters behind the whole part: nothing for a whole number, else a
    point and the fraction down to its last digit that is not zero. -/
def fractionText (fraction : Nat) : List Char :=
  if fraction = 0 then []
  else '.' :: Text.trimEnd '0' (Text.paddedDigits 10 places fraction)

/-- The whole part. -/
def whole (d : Fixed) : Nat :=
  d.atomics / unit

/-- Shortest decimal numeral of the ratio. -/
def chars (d : Fixed) : List Char :=
  Nat.toDigits 10 d.whole ++ fractionText (d.atomics % unit)

def numeral (d : Fixed) : String :=
  String.ofList d.chars

instance : ToString Fixed := ⟨numeral⟩

end Fixed

end VeiledPool
