import VeiledPool.Asset.Form
import VeiledPool.Exchange.Basic
import VeiledPool.Exchange.Query
import VeiledPool.Ledger.Live

/-! # Sessions

A session is one pair at work: its description, its ledger, the rate in force
and the source of draws. A command answers or faults, and the state after it is
what it leaves, either way. The ledger is worked on in place. An accepted action
counts only once its effects have been applied.
-/

namespace VeiledPool

/-- The state of one pair at work. -/
structure Session where
  pair : Pair
  ledger : Ledger
  rate : CommissionRate
  entropy : Entropy

/-- What a session can be told to do. -/
inductive Command where
  /-- Create funds for a holder. -/
  | mint (holder : Holder) (asset : Asset)
  /-- Take funds that a sender sent along. -/
  | receive (sender : Holder) (asset : Asset)
  /-- Carry out an action and, if asked, apply its effects. -/
  | perform (action : Action) (commit : Bool)
  /-- The same, with a fault reported as a rejection. -/
  | handle (action : Action) (commit : Bool)
  | queryPair
  | queryPool
  | simulate (offer : Asset)
  | reverseSimulate (ask : Asset)
  /-- Apply effects that came from elsewhere. -/
  | apply (effects : List Effect)
  | setRate (rate : CommissionRate)
  /-- Feed data to the source of draws. -/
  | absorb (data : List UInt8)
  /-- What all holders have of an asset. -/
  | total (asset : AssetInfo)
  deriving Repr

/-- What a command answers. -/
inductive Answer where
  | done
  | outcome (outcome : Outcome)
  | report (report : Report)
  | pair (pair : Pair)
  | pool (report : Exchange.PoolReport)
  | fill (fill : Curve.Fill)
  | quote (quote : Curve.Quote)
  | total (amount : Nat)
  deriving DecidableEq, Repr

/-- How a command went. -/
inductive Reply where
  | answered (answer : Answer)
  | refused (fault : Fault)
  /-- Accepted, but its effects could not be applied. -/
  | unapplied (answer : Answer) (fault : Fault)
  deriving DecidableEq, Repr

namespace Session

/-- A session with a funded pair account and given share holdings. -/
def openWith (pair : Pair) (rate : CommissionRate) (entropy : Entropy) (account : Scalar)
    (reserves : Scalar × Scalar) (holdings : List (Holder × Int)) : Except Fault Session := do
  let ledger ← Ledger.openFor account
  let reserve0 ← Asset.ofScalar pair.assets.first reserves.1
  let ledger ← ledger.mint ledger.account reserve0
  let reserve1 ← Asset.ofScalar pair.assets.second reserves.2
  let ledger ← ledger.mint ledger.account reserve1
  let ledger ← holdings.foldlM (fun ledger (holder, amount) => ledger.mintShares holder amount)
    ledger
  pure { pair, ledger, rate, entropy }

/-- Applies the effects of an accepted action; if that goes well, the pair is the one
    after the action. -/
def settle (session : Session) (outcome : Outcome) : Except Fault Unit × Session :=
  match session.ledger.operate
      (LiveLedger.applyEffects session.ledger.account outcome.effects) with
  | (.ok (), ledger) => (.ok (), { session with ledger, pair := outcome.pairAfter session.pair })
  | (.error fault, ledger) => (.error fault, { session with ledger })

/-- Answers with an accepted action, applying its effects if asked. -/
def conclude (session : Session) (outcome : Outcome) (answer : Answer) (commit : Bool) :
    Reply × Session :=
  if commit then
    match session.settle outcome with
    | (.ok (), next) => (.answered answer, next)
    | (.error fault, next) => (.unapplied answer fault, next)
  else (.answered answer, session)

/-- Lets a computation work on the ledger. -/
def change (session : Session) (program : LiveLedger Unit) : Reply × Session :=
  match session.ledger.operate program with
  | (.ok (), ledger) => (.answered .done, { session with ledger })
  | (.error fault, ledger) => (.refused fault, { session with ledger })

/-- Answers a question that may have taken a draw. -/
def ask {α : Type} (session : Session) (answer : α → Answer) :
    Except Fault α × Entropy → Reply × Session
  | (.ok result, entropy) => (.answered (answer result), { session with entropy })
  | (.error fault, entropy) => (.refused fault, { session with entropy })

/-- Carries out one command. -/
def step (session : Session) : Command → Reply × Session
  | .mint holder asset => session.change (LiveLedger.mint holder asset)
  | .receive sender asset =>
    session.change (LiveLedger.receive session.ledger.account sender asset)
  | .perform action commit =>
    match Exchange.perform session.ledger session.rate session.pair action with
    | .ok outcome => session.conclude outcome (.outcome outcome) commit
    | .error fault => (.refused fault, session)
  | .handle action commit =>
    match Exchange.handle session.ledger session.rate session.pair action session.entropy with
    | (.accepted pair outcome, entropy) =>
      { session with entropy }.conclude outcome (.report (.accepted pair outcome)) commit
    | (.rejected fault, entropy) =>
      (.answered (.report (.rejected fault)), { session with entropy })
  | .queryPair => (.answered (.pair session.pair), session)
  | .queryPool => session.ask .pool (Exchange.queryPool session.ledger session.pair session.entropy)
  | .simulate offer =>
    session.ask .fill
      (Exchange.simulate session.ledger session.rate session.pair offer session.entropy)
  | .reverseSimulate ask =>
    session.ask .quote
      (Exchange.reverseSimulate session.ledger session.rate session.pair ask session.entropy)
  | .apply effects =>
    session.change (LiveLedger.applyEffects session.ledger.account effects)
  | .setRate rate => (.answered .done, { session with rate })
  | .absorb data =>
    match session.entropy.absorb data with
    | .ok entropy => (.answered .done, { session with entropy })
    | .error fault => (.refused fault, session)
  | .total asset => (.answered (.total (session.ledger.books.balances.total asset)), session)

end Session

end VeiledPool
