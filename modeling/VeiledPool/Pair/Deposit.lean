import VeiledPool.Pair.Basic

/-! # Matching deposits to sides

A deposit lists one amount for each asset of the pair, in any order.
-/

namespace VeiledPool.Pair

/-- Amounts found so far, one per side. -/
abbrev Found := Option Nat × Option Nat

/-- Enters an amount on its side. -/
def enter (found : Found) (side : Side) (amount : Nat) : Found :=
  match side with
  | .first => (some amount, found.2)
  | .second => (found.1, some amount)

/-- Matches the rest of a list to what was found before it. -/
def matchFrom (pair : Pair) (found : Found) : List Asset → Except Fault Found
  | [] => .ok found
  | asset :: rest => do
    let side ← pair.sideOf asset.info
    if (side.of found).isSome then .error (.invalidAsset (.repeated asset.info.name))
    else pair.matchFrom (enter found side asset.amount) rest

/-- The two amounts of a deposit in canonical order. -/
def matchAssets (pair : Pair) (assets : List Asset) : Except Fault (Nat × Nat) := do
  match ← pair.matchFrom (none, none) assets with
  | (some amount0, some amount1) => .ok (amount0, amount1)
  | _ => .error (.invalidAsset .incomplete)

end VeiledPool.Pair
