import VeiledPool.Fault.Basic

/-! # Commission rates

A commission rate is a fraction between zero and one, kept as the numerator and
denominator that were set. Where it is set a non-positive denominator is a bad
value; where a price is computed with terms straight from a caller it is a
degenerate state.
-/

namespace VeiledPool

/-- A fraction of the gross output that stays in the pool. -/
structure CommissionRate where
  nom : Nat
  denom : Nat
  denom_pos : 0 < denom
  nom_le : nom ≤ denom
  deriving DecidableEq, Repr

namespace CommissionRate

/-- Checks the two terms of a rate; a denominator that is not positive is
    reported as the caller wishes. -/
def check (notPositive : Int → Fault) (nom denom : Int) : Except Fault CommissionRate :=
  if denom_pos : denom ≤ 0 then .error (notPositive denom).raised
  else if nom_range : 0 ≤ nom ∧ nom ≤ denom then
    .ok ⟨nom.toNat, denom.toNat, by omega, by omega⟩
  else .error (.badValue (.rateNumerator nom denom))

def ofTerms (nom denom : Int) : Except Fault CommissionRate :=
  check (fun d => .badValue (.rateDenominator d)) nom denom

/-- A rate for a single computation. -/
def forPricing (nom denom : Int) : Except Fault CommissionRate :=
  check (fun d => .degenerate (.rateDenominator d)) nom denom

/-- The rate in force where none is set: three in a thousand. -/
def standard : CommissionRate :=
  ⟨3, 1000, by decide, by decide⟩

end CommissionRate

end VeiledPool
