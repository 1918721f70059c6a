import VeiledPool.Asset.Basic
import VeiledPool.Ledger.Tally

/-! # Balances

How much of every asset each holder has. Balances are kept by identity, so a
code hash never splits one asset in two. An operation that would leave a balance
below zero is refused and changes nothing.
-/

namespace VeiledPool

/-- An account or contract address. -/
abbrev Holder := Spelling

structure Balances where
  table : Tally (Holder × AssetId)

namespace Balances

def empty : Balances := ⟨.empty⟩

def get (balances : Balances) (holder : Holder) (asset : AssetInfo) : Nat :=
  balances.table.get (holder, asset.id)

def set (balances : Balances) (holder : Holder) (asset : AssetInfo) (amount : Int) :
    Except Fault Balances :=
  if amount < 0 then .error (.badValue (.negativeBalance amount))
  else .ok ⟨balances.table.set (holder, asset.id) amount.toNat⟩

/-- Changes a balance by a signed amount. -/
def add (balances : Balances) (holder : Holder) (asset : AssetInfo) (delta : Int) :
    Except Fault Balances :=
  let current := balances.get holder asset
  if (current : Int) + delta < 0 then
    .error (.badValue (.balanceShortfall asset.name holder current delta))
  else balances.set holder asset (current + delta)

def subtract (balances : Balances) (holder : Holder) (asset : AssetInfo) (delta : Int) :
    Except Fault Balances :=
  if delta < 0 then .error (.badValue (.negative "Delta" delta))
  else balances.add holder asset (-delta)

def transfer (balances : Balances) (sender recipient : Holder) (asset : AssetInfo)
    (amount : Int) : Except Fault Balances :=
  if amount < 0 then .error (.badValue (.negative "Transfer amount" amount))
  else do
    let debited ← balances.subtract sender asset amount
    debited.add recipient asset amount

def total (balances : Balances) (asset : AssetInfo) : Nat :=
  balances.table.sumOf fun key => key.2 = asset.id

def text (balances : Balances) : String :=
  let size := balances.table.size
  s!"BalanceTable({size} entries)"

end Balances

end VeiledPool
