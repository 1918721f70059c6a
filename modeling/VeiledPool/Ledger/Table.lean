import VeiledPool.Ledger.Shares

/-! # Tables in memory

A ledger keeps its tables as objects: a table is changed in place, one write after the
other, and whoever refers to it sees every change. A computation that faults stops where
it is, and what it has written until then stays written. Nothing but a copy keeps two
tables apart: it puts what one of them holds into a new place.
-/

namespace VeiledPool

/-- Tables in memory, each at a place of its own. -/
structure Heap (σ : Type) where
  /-- How many places are taken. -/
  used : Nat
  cell : Nat → σ

namespace Heap

variable {σ : Type}

/-- Memory with one table. -/
def holding (content : σ) : Heap σ := ⟨1, fun _ => content⟩

def write (heap : Heap σ) (place : Nat) (content : σ) : Heap σ :=
  { heap with cell := fun other => if other = place then content else heap.cell other }

/-- Memory with another table in it. -/
def push (heap : Heap σ) (content : σ) : Heap σ :=
  { heap.write heap.used content with used := heap.used + 1 }

end Heap

/-- A computation on tables in memory. -/
abbrev Live (σ α : Type) := EStateM Fault (Heap σ) α

/-- A reference to a table. -/
structure Ref (σ : Type) where
  place : Nat
  deriving DecidableEq, Repr

namespace Ref

variable {σ : Type}

def read (table : Ref σ) : Live σ σ := do
  let heap ← get
  pure (heap.cell table.place)

def write (table : Ref σ) (content : σ) : Live σ Unit :=
  modify fun heap => heap.write table.place content

/-- A table at a new place. -/
def make (content : σ) : Live σ (Ref σ) := do
  let heap ← get
  set (heap.push content)
  pure ⟨heap.used⟩

/-- A new table that starts from what this one holds. -/
def copy (table : Ref σ) : Live σ (Ref σ) := do
  let content ← table.read
  make content

end Ref

/-! ## Balances -/

abbrev BalanceTable := Ref Balances

namespace BalanceTable

def get (table : BalanceTable) (holder : Holder) (asset : AssetInfo) : Live Balances Nat := do
  let balances ← table.read
  pure (balances.get holder asset)

def set (table : BalanceTable) (holder : Holder) (asset : AssetInfo) (amount : Int) :
    Live Balances Unit :=
  if amount < 0 then throw (.badValue (.negativeBalance amount))
  else do
    let balances ← table.read
    table.write ⟨balances.table.set (holder, asset.id) amount.toNat⟩

def add (table : BalanceTable) (holder : Holder) (asset : AssetInfo) (delta : Int) :
    Live Balances Unit := do
  let current ← table.get holder asset
  if (current : Int) + delta < 0 then
    throw (.badValue (.balanceShortfall asset.name holder current delta))
  else table.set holder asset (current + delta)

def subtract (table : BalanceTable) (holder : Holder) (asset : AssetInfo) (delta : Int) :
    Live Balances Unit :=
  if delta < 0 then throw (.badValue (.negative "Delta" delta))
  else table.add holder asset (-delta)

/-- Takes from one holder and then gives to another. -/
def transfer (table : BalanceTable) (sender recipient : Holder) (asset : AssetInfo)
    (amount : Int) : Live Balances Unit :=
  if amount < 0 then throw (.badValue (.negative "Transfer amount" amount))
  else do
    table.subtract sender asset amount
    table.add recipient asset amount

end BalanceTable

/-! ## Shares -/

abbrev ShareTable := Ref Shares

namespace ShareTable

def mint (table : ShareTable) (holder : Holder) (amount : Int) : Live Shares Unit :=
  if amount < 0 then throw (.badValue (.negative "Mint amount" amount))
  else if amount = 0 then pure ()
  else do
    let shares ← table.read
    table.write (shares.credit holder amount.toNat)

def burn (table : ShareTable) (holder : Holder) (amount : Int) : Live Shares Unit :=
  if amount < 0 then throw (.badValue (.negative "Burn amount" amount))
  else do
    let shares ← table.read
    if short : (shares.get holder : Int) < amount then
      throw (.badValue (.shareShortfall holder (shares.get holder) amount))
    else table.write (shares.debit holder amount.toNat (by omega))

end ShareTable

end VeiledPool
