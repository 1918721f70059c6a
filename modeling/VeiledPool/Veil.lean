import VeiledPool.Wide.Basic

/-! # Veiled figures

Observers see every figure of one report multiplied by the same fraction close
to one. A 64-bit draw chooses it: the draw's last two decimal digits are added
to or taken from ten thousand, by the draw's parity, so no figure moves by a
hundredth or more.
-/

namespace VeiledPool

/-- The fraction by which the figures of one report are multiplied. -/
structure Veil where
  nom : Int
  denom : Int
  deriving DecidableEq, Repr

namespace Veil

/-- Denominator of every drawn veil. -/
def scale : Nat := 10000

/-- Deviations are below this many parts of `scale`. -/
def span : Nat := 100

/-- The veil that a draw chooses. -/
def ofDraw (draw : UInt64) : Veil :=
  let noise := draw.toNat % span
  if draw.toNat % 2 = 0 then ⟨(scale + noise : Nat), scale⟩
  else ⟨(scale - noise : Nat), scale⟩

/-- An integer taken as a draw. -/
def draw? (value : Int) : Except Fault UInt64 :=
  if 0 ≤ value ∧ value < (UInt64.size : Int) then .ok (UInt64.ofNat value.toNat)
  else .error (.badValue (.draw value))

/-- The veil that an integer chooses, if it is a 64-bit draw. -/
def ofInt (value : Int) : Except Fault Veil := do
  let draw ← draw? value
  pure (ofDraw draw)

/-- A figure as the report shows it. -/
def cover (veil : Veil) (amount : Int) : Except Fault Nat := do
  let scaled ← Wide.require (.veiledFigure amount veil.nom veil.denom)
    (Wide.div (Wide.mul (Wide.lift amount) (Wide.lift veil.nom)) (Wide.lift veil.denom))
  narrow "obfuscated amount" scaled

end Veil

end VeiledPool
