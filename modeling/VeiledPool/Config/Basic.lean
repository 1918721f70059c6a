import VeiledPool.Curve.Rate
import VeiledPool.Entropy.Source
import VeiledPool.Pair.Basic
import VeiledPool.Scalar.Admission
import VeiledPool.Text.Points

/-! # Configurations

A configuration holds what it takes to set up a pair: two different assets in
the order in which they were written down, the liquidity token, the commission
rate and perhaps a seed. Whatever was accepted as one describes a pair; it
also starts a source of draws, unless its seed has no bytes.
-/

namespace VeiledPool

/-- Bytes of a text, broken or whole; only a whole one has any. -/
def Spelling.bytes : Spelling → Except Fault (List UInt8)
  | text value => .ok (bytesOf value)
  | broken codes _ => .error (.badValue (.unencodable codes))

/-- Everything a pair starts from. -/
structure Config where
  first : AssetInfo
  second : AssetInfo
  distinct : ¬ first.Same second
  token : Spelling
  named : token ≠ ""
  rate : CommissionRate
  /-- Seed of the draws; the liquidity token if there is none. -/
  seed : Option Spelling
  deriving Repr

namespace CommissionRate

def ofScalars (nom denom : Scalar) : Except Fault CommissionRate := do
  let nom ← nom.integer "commission_rate_nom"
  let denom ← denom.integer "commission_rate_denom"
  ofTerms nom denom

end CommissionRate

namespace Config

/-- A seed, if there is one. -/
def seedOf : Scalar → Except Fault (Option Spelling)
  | .null => .ok none
  | .text value => .ok (some value)
  | _ => .error (.wrongType (.unmet "entropy_seed" .text))

/-- Checks the parts of a configuration. -/
def make (infos : List AssetInfo) (token nom denom seed : Scalar) : Except Fault Config :=
  match infos with
  | [first, second] =>
    if same : first.Same second then .error (.invalidAsset (.twice first.name))
    else do
      let ⟨name, named⟩ ← token.name "liquidity_token"
      let seed ← seedOf seed
      let rate ← CommissionRate.ofScalars nom denom
      pure ⟨first, second, same, name, named, rate, seed⟩
  | _ => .error (.badValue .assetCount)

def pair (config : Config) : Pair :=
  ⟨AssetPair.ofDistinct config.first config.second config.distinct, config.token, config.named,
    0, 0⟩

def entropy (config : Config) : Except Fault Entropy := do
  let seed ← (config.seed.getD config.token).bytes
  pure (Entropy.ofSeed seed)

end Config

end VeiledPool
