import VeiledPool.Entropy.Source
import VeiledPool.Exchange.Query
import VeiledPool.Exchange.Action
import VeiledPool.Scalar.Admission

/-! # Actions, draws and effects in requests

What a session is asked for, with values of unknown type admitted at the point
where the request would first use them.
-/

namespace VeiledPool

def Action.ofWithdrawal (sender : Holder) (amount : Scalar) : Action :=
  match amount.integer "burn_amount" with
  | .ok amount => .withdraw ⟨sender, amount⟩
  | .error fault => .unreadable fault

def Action.ofUnknown (name : String) : Action :=
  .unreadable (.wrongType (.unknownAction name))

namespace Entropy

/-- A draw of a script. -/
def scriptedDraw (value : Scalar) : Except Fault UInt64 :=
  match value with
  | .int value => Veil.draw? value
  | _ => .error (.wrongType (.unmet "draws" .integers))

/-- A script of values of unknown type. -/
def ofScalars (draws : List Scalar) : Except Fault Entropy := do
  let draws ← draws.mapM scriptedDraw
  pure (script draws 0)

end Entropy

/-- A report on reserves and a supply of unknown type. Without a supply only the
    reserves are reported. -/
def Request.reportUnder (pools : Asset × Asset) (totalShare : Option Scalar) (veil : Veil) :
    Except Fault ((Asset × Asset) × Option Nat) := do
  let assets ← veil.coverPools pools
  match totalShare with
  | none => pure (assets, none)
  | some totalShare => do
    let totalShare ← totalShare.integer "value"
    let covered ← veil.cover totalShare
    pure (assets, some covered)

end VeiledPool
