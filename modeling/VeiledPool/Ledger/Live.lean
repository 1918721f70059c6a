import VeiledPool.Ledger.Basic
import VeiledPool.Ledger.Table

/-! # The ledger at work

A ledger refers to two tables as its own. Funds are moved in these tables directly;
effects are carried out on copies of them, and only when all have been carried out do the
copies become the ledger's own tables. Whatever a computation leaves in memory counts,
also where it faults.
-/

namespace VeiledPool

/-- What is in memory, and which tables there are a ledger's own. -/
structure LedgerMemory where
  balances : Heap Balances
  shares : Heap Shares
  ownBalances : BalanceTable
  ownShares : ShareTable

namespace LedgerMemory

/-- Memory with the tables of one ledger and nothing else. -/
def holding (books : Books) : LedgerMemory :=
  ⟨.holding books.balances, .holding books.shares, ⟨0⟩, ⟨0⟩⟩

/-- What the ledger's own tables hold. -/
def books (memory : LedgerMemory) : Books :=
  ⟨memory.balances.cell memory.ownBalances.place, memory.shares.cell memory.ownShares.place⟩

end LedgerMemory

/-- A computation on the memory of a ledger. -/
abbrev LiveLedger (α : Type) := EStateM Fault LedgerMemory α

namespace LiveLedger

variable {α : Type}

def onBalances (program : Live Balances α) : LiveLedger α := fun memory =>
  match program memory.balances with
  | .ok result balances => .ok result { memory with balances }
  | .error fault balances => .error fault { memory with balances }

def onShares (program : Live Shares α) : LiveLedger α := fun memory =>
  match program memory.shares with
  | .ok result shares => .ok result { memory with shares }
  | .error fault shares => .error fault { memory with shares }

/-- Credits a holder with newly created funds. -/
def mint (holder : Holder) (asset : Asset) : LiveLedger Unit := do
  let memory ← get
  onBalances (memory.ownBalances.add holder asset.info asset.amount)

/-- Moves funds that were sent along with a call into the pair account. -/
def receive (account sender : Holder) (asset : Asset) : LiveLedger Unit := do
  let memory ← get
  onBalances (memory.ownBalances.transfer sender account asset.info asset.amount)

/-- Carries out one effect for the pair account, on the given tables. -/
def carry (account : Holder) (balances : BalanceTable) (shares : ShareTable) :
    Effect → LiveLedger Unit
  | .transfer asset recipient =>
    onBalances (balances.transfer account recipient asset.info asset.amount)
  | .transferFrom asset owner =>
    onBalances (balances.transfer owner account asset.info asset.amount)
  | .mintShares recipient amount => onShares (shares.mint recipient amount)
  | .burnShares owner amount => onShares (shares.burn owner amount)
  | .unknown name => throw (.wrongType (.unknownEffect name))

/-- Carries out effects in order. -/
def carryAll (account : Holder) (balances : BalanceTable) (shares : ShareTable) :
    List Effect → LiveLedger Unit
  | [] => pure ()
  | effect :: rest => do
    carry account balances shares effect
    carryAll account balances shares rest

/-- Applies effects to copies of the ledger's tables and then takes the copies over. -/
def applyEffects (account : Holder) (effects : List Effect) : LiveLedger Unit := do
  let memory ← get
  let balances ← onBalances memory.ownBalances.copy
  let shares ← onShares memory.ownShares.copy
  carryAll account balances shares effects
  modify fun memory => { memory with ownBalances := balances }
  modify fun memory => { memory with ownShares := shares }

end LiveLedger

/-- Lets a computation work on a ledger, and looks at what the ledger's own tables hold
    when it ends or faults. -/
def Ledger.operate (ledger : Ledger) (program : LiveLedger Unit) : Except Fault Unit × Ledger :=
  match program.run (.holding ledger.books) with
  | .ok () memory => (.ok (), { ledger with books := memory.books })
  | .error fault memory => (.error fault, { ledger with books := memory.books })

end VeiledPool
