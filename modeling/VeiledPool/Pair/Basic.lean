import VeiledPool.Asset.Order
import VeiledPool.Wide.Basic

/-! # Pairs

A pair is two assets in canonical order, the name of its liquidity token and
the volume offered on each side so far. Reserves and shares are not part of it;
they stand in the ledger.
-/

namespace VeiledPool

structure Pair where
  assets : AssetPair
  token : Spelling
  named : token ≠ ""
  /-- Total ever offered of the first asset. -/
  volume0 : Nat
  /-- Total ever offered of the second asset. -/
  volume1 : Nat
  deriving DecidableEq, Repr

namespace Pair

/-- Both asset names, joined by a hyphen. -/
def text (pair : Pair) : Spelling :=
  pair.assets.first.name ++ "-" ++ pair.assets.second.name

/-- A pair without volume. The token may come from an unchecked caller. -/
def ofAssets (assets : AssetPair) (token : Scalar) : Except Fault Pair :=
  match token with
  | .text token =>
    if named : token = "" then .error (.badValue (.notName "liquidity_token"))
    else .ok ⟨assets, token, named, 0, 0⟩
  | _ => .error (.badValue (.notName "liquidity_token"))

/-- A new pair of assets in any order. -/
def create (infos : List AssetInfo) (token : Scalar) : Except Fault Pair :=
  match infos with
  | [a, b] => do
    let assets ← AssetPair.arrange a b
    ofAssets assets token
  | _ => .error (.badValue .assetCount)

/-- A pair restored from its parts, which have to be in canonical order. -/
def restore (infos : List AssetInfo) (token : Scalar) (volume0 volume1 : Int) :
    Except Fault Pair :=
  match infos with
  | [a, b] => do
    let assets ← AssetPair.arrange a b
    if assets.first = a ∧ assets.second = b then
      let pair ← ofAssets assets token
      if volume0 < 0 ∨ volume1 < 0 then .error (.badValue (.negativeVolumes volume0 volume1))
      else .ok { pair with volume0 := volume0.toNat, volume1 := volume1.toNat }
    else .error (.badValue (.assetOrder a.name b.name))
  | _ => .error (.badValue .assetCount)

def info (pair : Pair) (side : Side) : AssetInfo :=
  side.of pair.assets.infos

def volume (pair : Pair) (side : Side) : Nat :=
  side.of (pair.volume0, pair.volume1)

/-- The side of an asset. -/
def sideOf (pair : Pair) (asset : AssetInfo) : Except Fault Side :=
  if pair.assets.first.Same asset then .ok .first
  else if pair.assets.second.Same asset then .ok .second
  else .error (.invalidAsset
    (.stranger asset.name pair.assets.first.name pair.assets.second.name))

/-- What the volume of a side is called in a fault. -/
def volumeName : Side → String
  | .first => "asset0_volume"
  | .second => "asset1_volume"

/-- The pair after another offer on one side. -/
def addVolume (pair : Pair) (side : Side) (amount : Int) : Except Fault Pair := do
  let volume ← narrow (volumeName side) (pair.volume side + amount)
  match side with
  | .first => pure { pair with volume0 := volume }
  | .second => pure { pair with volume1 := volume }

end Pair

end VeiledPool
