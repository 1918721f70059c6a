import VeiledPool.Ledger.Basic

/-! # Actions and their outcomes

What callers may ask of a pair, and what an accepted request amounts to: the
amounts concerned, the pair as it will be described, and the effects that the
ledger has to carry out.
-/

namespace VeiledPool

structure SwapOrder where
  sender : Holder
  offer : Asset
  /-- Who is paid; the sender if nobody is named. -/
  recipient : Option Holder := none
  expectedReturn : Option Int := none
  beliefPrice : Option Fixed := none
  maxSpread : Option Fixed := none
  deriving DecidableEq, Repr

structure ProvideOrder where
  sender : Holder
  assets : List Asset
  tolerance : Option Fixed := none
  deriving DecidableEq, Repr

structure WithdrawOrder where
  sender : Holder
  amount : Int
  deriving DecidableEq, Repr

inductive Action where
  | swap (order : SwapOrder)
  | provide (order : ProvideOrder)
  | withdraw (order : WithdrawOrder)
  /-- A request that could not be understood, and why. -/
  | unreadable (fault : Fault)
  deriving DecidableEq, Repr

structure SwapResult where
  /-- The pair with the offer counted in its volume. -/
  pair : Pair
  /-- The offer as the caller described it. -/
  offer : Asset
  returned : Asset
  spread : Nat
  commission : Nat
  effects : List Effect
  deriving DecidableEq, Repr

structure ProvideResult where
  deposits : Asset × Asset
  share : Nat
  effects : List Effect
  deriving DecidableEq, Repr

structure WithdrawResult where
  refunds : Asset × Asset
  burned : Int
  effects : List Effect
  deriving DecidableEq, Repr

inductive Outcome where
  | swap (result : SwapResult)
  | provide (result : ProvideResult)
  | withdraw (result : WithdrawResult)
  deriving DecidableEq, Repr

namespace Outcome

/-- What the ledger has to carry out. -/
def effects : Outcome → List Effect
  | swap result => result.effects
  | provide result => result.effects
  | withdraw result => result.effects

/-- The pair after the action; only a swap changes it. -/
def pairAfter (before : Pair) : Outcome → Pair
  | swap result => result.pair
  | provide _ => before
  | withdraw _ => before

end Outcome

/-- Answer to an action that is never refused outright. -/
inductive Report where
  /-- The pair after the action and what was accepted. -/
  | accepted (pair : Pair) (outcome : Outcome)
  /-- Why nothing was accepted. -/
  | rejected (fault : Fault)
  deriving DecidableEq, Repr

/-- Code of a rejection; faults of the request share one. -/
def Fault.rejectionCode (fault : Fault) : String :=
  fault.code?.getD "invalid_input"

end VeiledPool
