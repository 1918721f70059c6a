import VeiledPool.Ledger.Shares

/-! # Effects

An accepted action changes nothing by itself; it lists the effects that a ledger
has to carry out. `Books.carry` carries out one of them on behalf of a pair
account, and `Books.carryAll` a list in order, up to the first that fails.
-/

namespace VeiledPool

/-- One change that a ledger is asked for. -/
inductive Effect where
  /-- Pay an asset from the pair to a recipient. -/
  | transfer (asset : Asset) (recipient : Holder)
  /-- Pull an asset from its owner into the pair. -/
  | transferFrom (asset : Asset) (owner : Holder)
  /-- Create shares for a recipient. -/
  | mintShares (recipient : Holder) (amount : Int)
  /-- Destroy shares of their owner. -/
  | burnShares (owner : Holder) (amount : Int)
  /-- Something that is no effect; `name` says what it is. -/
  | unknown (name : String)
  deriving DecidableEq, Repr

/-- Everything that effects can change. -/
structure Books where
  balances : Balances
  shares : Shares

namespace Books

def empty : Books := ⟨.empty, .empty⟩

/-- Carries out one effect for the pair account. -/
def carry (account : Holder) (books : Books) : Effect → Except Fault Books
  | .transfer asset recipient => do
    let balances ← books.balances.transfer account recipient asset.info asset.amount
    pure { books with balances }
  | .transferFrom asset owner => do
    let balances ← books.balances.transfer owner account asset.info asset.amount
    pure { books with balances }
  | .mintShares recipient amount => do
    let shares ← books.shares.mint recipient amount
    pure { books with shares }
  | .burnShares owner amount => do
    let shares ← books.shares.burn owner amount
    pure { books with shares }
  | .unknown name => .error (.wrongType (.unknownEffect name))

/-- Carries out effects in order; the first failure is the answer. -/
def carryAll (account : Holder) (books : Books) (effects : List Effect) : Except Fault Books :=
  effects.foldlM (carry account) books

end Books

end VeiledPool
