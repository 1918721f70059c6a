import VeiledPool.Ledger.Effect
import VeiledPool.Pair.Basic

/-! # The ledger of one pair

A ledger keeps the books of all holders, the pair's own account among them. The
pair's reserves are what that account holds; actions are priced from them and
their effects come back here. Effects are applied all or not at all.
-/

namespace VeiledPool

/-- Books together with the account of the pair. -/
structure Ledger where
  account : Holder
  named : account ≠ ""
  books : Books

namespace Ledger

/-- A ledger without funds. The account may come from an unchecked caller. -/
def openFor (account : Scalar) : Except Fault Ledger :=
  match account with
  | .text account =>
    if named : account = "" then .error (.badValue (.notName "pair_account"))
    else .ok ⟨account, named, .empty⟩
  | _ => .error (.badValue (.notName "pair_account"))

def balance (ledger : Ledger) (holder : Holder) (asset : AssetInfo) : Nat :=
  ledger.books.balances.get holder asset

def reserve (ledger : Ledger) (asset : AssetInfo) : Nat :=
  ledger.balance ledger.account asset

/-- Reserve on one side of a pair. -/
def pool (ledger : Ledger) (pair : Pair) (side : Side) : Asset :=
  ⟨pair.info side, ledger.reserve (pair.info side)⟩

/-- Both reserves of a pair, in canonical order. -/
def pools (ledger : Ledger) (pair : Pair) : Asset × Asset :=
  (ledger.pool pair .first, ledger.pool pair .second)

def totalShare (ledger : Ledger) : Nat :=
  ledger.books.shares.supply

/-- Credits a holder with newly created funds. -/
def mint (ledger : Ledger) (holder : Holder) (asset : Asset) : Except Fault Ledger := do
  let balances ← ledger.books.balances.add holder asset.info asset.amount
  pure { ledger with books := { ledger.books with balances } }

/-- Moves funds that were sent along with a call into the pair account. -/
def receive (ledger : Ledger) (sender : Holder) (asset : Asset) : Except Fault Ledger := do
  let balances ← ledger.books.balances.transfer sender ledger.account asset.info asset.amount
  pure { ledger with books := { ledger.books with balances } }

/-- Creates shares outside any action. -/
def mintShares (ledger : Ledger) (holder : Holder) (amount : Int) : Except Fault Ledger := do
  let shares ← ledger.books.shares.mint holder amount
  pure { ledger with books := { ledger.books with shares } }

/-- Applies effects in order, all of them or none. -/
def applyEffects (ledger : Ledger) (effects : List Effect) : Except Fault Ledger := do
  let books ← ledger.books.carryAll ledger.account effects
  pure { ledger with books }

end Ledger

end VeiledPool
