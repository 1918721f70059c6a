import VeiledPool.Fault.Basic
import VeiledPool.Scalar.Equality

/-! # Assets

An asset is the chain's native currency, known by its denomination, or a token
contract, known by its address. Kind and name identify it. A code hash may be
carried along for whoever talks to the contract; it is taken as it comes and
never tells two assets apart.
-/

namespace VeiledPool

inductive AssetKind where
  | native
  | token
  deriving DecidableEq, Repr

/-- Place of a kind in the order of assets: native currencies come first. -/
def AssetKind.rank : AssetKind → Nat
  | native => 0
  | token => 1

structure AssetId where
  kind : AssetKind
  name : Spelling
  deriving DecidableEq, Repr

/-- An asset as a caller describes it. -/
structure AssetInfo where
  id : AssetId
  /-- A code hash, or whatever was given for one. -/
  codeHash : Scalar
  named : id.name ≠ ""
  deriving DecidableEq, Repr

namespace AssetInfo

def kind (info : AssetInfo) : AssetKind := info.id.kind

def name (info : AssetInfo) : Spelling := info.id.name

def isNative (info : AssetInfo) : Bool := info.kind = .native

/-- Two descriptions of one asset. -/
def Same (a b : AssetInfo) : Prop := a.id = b.id

instance (a b : AssetInfo) : Decidable (a.Same b) := inferInstanceAs (Decidable (a.id = b.id))

/-- Whether two descriptions say the same, the code hash included. -/
def agrees (a b : AssetInfo) : Bool :=
  a.Same b && a.codeHash.equals b.codeHash

end AssetInfo

/-- An amount of an asset in its smallest unit. -/
structure Asset where
  info : AssetInfo
  amount : Nat
  deriving DecidableEq, Repr

namespace Asset

/-- An integer amount of an asset. -/
def ofAmount (info : AssetInfo) (amount : Int) : Except Fault Asset :=
  if amount < 0 then .error (.badValue (.negative "amount" amount))
  else .ok ⟨info, amount.toNat⟩

/-- Amount and name without a gap. -/
def text (asset : Asset) : Except Fault Spelling :=
  written [asset.amount] (toString asset.amount ++ asset.info.name)

end Asset

end VeiledPool
