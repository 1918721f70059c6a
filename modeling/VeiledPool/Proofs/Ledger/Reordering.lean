import VeiledPool.Proofs.Ledger.Execution
import VeiledPool.Proofs.Ledger.Holdings

/-! # Effects in another order

What an effect adds to a figure of the books does not depend on what the books hold,
and a sum does not depend on its order. Two orders of the same effects may leave very
different books on the way, and one of them may be refused where the other is not; but
if both are carried out they end with the same figures.
-/

namespace VeiledPool

theorem Effect.figure_of_perm {effects others : List Effect} (perm : effects.Perm others)
    {change : Effect → Int} {before after other : Int}
    (carried : after = before + (effects.map change).sum)
    (reordered : other = before + (others.map change).sum) : after = other := by
  rw [carried, reordered, (perm.map change).sum_eq]

namespace Ledger

variable {ledger after other : Ledger} {effects others : List Effect}

/-- If effects are applied to a ledger, and in another order to the same ledger, both end
    with the same balances, the same shares and the same supply. -/
theorem order_is_immaterial (perm : effects.Perm others)
    (applied : ledger.applyEffects effects = .ok after)
    (reordered : ledger.applyEffects others = .ok other) :
    (∀ holder asset, after.balance holder asset = other.balance holder asset) ∧
    (∀ holder, after.books.shares.get holder = other.books.shares.get holder) ∧
    after.totalShare = other.totalShare := by
  obtain ⟨books, carried, rfl⟩ := applyEffects_eq_ok_iff.1 applied
  obtain ⟨otherBooks, carriedOther, rfl⟩ := applyEffects_eq_ok_iff.1 reordered
  refine ⟨?balances, ?shares, ?supply⟩
  case balances =>
    intro holder asset
    exact_mod_cast Effect.figure_of_perm perm (Books.balance_carryAll carried holder asset)
      (Books.balance_carryAll carriedOther holder asset)
  case shares =>
    intro holder
    exact_mod_cast Effect.figure_of_perm perm (Books.shares_carryAll carried holder)
      (Books.shares_carryAll carriedOther holder)
  case supply =>
    exact_mod_cast Effect.figure_of_perm perm (Books.supply_carryAll carried)
      (Books.supply_carryAll carriedOther)

/-- A pool and one holder with some coins and some shares. -/
def sampleKept : Ledger where
  account := "vault"
  named := by decide
  books := {
    balances := ⟨(Tally.empty.set (("vault" : Holder), Shelf.sampleCoin.id) 9).set
      (("alice" : Holder), Shelf.sampleCoin.id) 4⟩
    shares := Shares.empty.credit "alice" 5 }

/-- The balance and the shares of the holder are used up on the way; in the reversed order
    only the shares are, and the coins that come in first go out last. -/
def sampleReordered : List Effect :=
  [.transferFrom ⟨Shelf.sampleCoin, 4⟩ "alice", .burnShares "alice" 5,
    .transfer ⟨Shelf.sampleCoin, 1⟩ "vault", .mintShares "bob" 2,
    .transfer ⟨Shelf.sampleCoin, 3⟩ "alice"]

theorem order_is_immaterial_sample :
    sampleReordered.Perm sampleReordered.reverse ∧
      ∃ after other, sampleKept.applyEffects sampleReordered = .ok after ∧
        sampleKept.applyEffects sampleReordered.reverse = .ok other ∧
        after.balance "alice" Shelf.sampleCoin = other.balance "alice" Shelf.sampleCoin ∧
        after.books.shares.get "bob" = other.books.shares.get "bob" ∧
        after.totalShare = other.totalShare := by
  have perm : sampleReordered.Perm sampleReordered.reverse := (List.reverse_perm _).symm
  have carried : (sampleKept.applyEffects sampleReordered).isOk = true := by decide +kernel
  have carriedBack : (sampleKept.applyEffects sampleReordered.reverse).isOk = true := by
    decide +kernel
  cases applied : sampleKept.applyEffects sampleReordered with
  | error fault =>
    rw [applied] at carried
    cases carried
  | ok after =>
    cases reordered : sampleKept.applyEffects sampleReordered.reverse with
    | error fault =>
      rw [reordered] at carriedBack
      cases carriedBack
    | ok other =>
      obtain ⟨balances, shares, supply⟩ := order_is_immaterial perm applied reordered
      exact ⟨perm, after, other, rfl, rfl, balances _ _, shares _, supply⟩

end Ledger

end VeiledPool
