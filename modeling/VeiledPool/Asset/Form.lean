import VeiledPool.Asset.Basic
import VeiledPool.Scalar.Admission

/-! # Describing assets

A description starts as a form whose fields nobody has checked. A native
currency needs a denomination and nothing else; a token needs an address and
must not have a denomination.
-/

namespace VeiledPool

/-- An asset description with unchecked fields. -/
structure AssetForm where
  /-- A kind, or whatever stands in its place. -/
  kind : AssetKind ⊕ Scalar
  denom : Scalar
  address : Scalar
  codeHash : Scalar
  deriving DecidableEq, Repr

namespace AssetForm

def native (denom : Scalar) : AssetForm :=
  ⟨.inl .native, denom, .null, .text ""⟩

def token (address codeHash : Scalar) : AssetForm :=
  ⟨.inl .token, .null, address, codeHash⟩

/-- Takes a name from one field; the other one has to be absent. -/
def named (kind : AssetKind) (name other codeHash : Scalar)
    (missing surplus : BadValue) : Except Fault AssetInfo :=
  match name with
  | .text name =>
    if named : name = "" then .error (.badValue missing)
    else if other = .null then .ok ⟨⟨kind, name⟩, codeHash, named⟩
    else .error (.badValue surplus)
  | _ => .error (.badValue missing)

def info (form : AssetForm) : Except Fault AssetInfo :=
  match form.kind with
  | .inr given => .error (Fault.wrongType (.assetKind given)).raised
  | .inl .native =>
    named .native form.denom form.address form.codeHash .nativeWithoutName .nativeWithAddress
  | .inl .token =>
    named .token form.address form.denom form.codeHash .tokenWithoutAddress .tokenWithName

end AssetForm

/-- An asset with an amount of unknown type. -/
def Asset.ofScalar (info : AssetInfo) (amount : Scalar) : Except Fault Asset := do
  let amount ← amount.integer "amount"
  Asset.ofAmount info amount

end VeiledPool
