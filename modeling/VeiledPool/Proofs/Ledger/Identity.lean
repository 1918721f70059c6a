import Mathlib.Data.List.Forall2
import VeiledPool.Ledger.Basic
import VeiledPool.Proofs.Fault.Sequence

/-! # Books go by identity

Kind and name are all that the books take from the description of an asset. Two
descriptions of one asset are entered in the same place, read from the same place
and, since a refusal names the asset and not its code hash, refused in the same words.
-/

namespace VeiledPool

/-- The same amount of the same asset, whatever code hash is given with it. -/
def Asset.Same (a b : Asset) : Prop :=
  a.info.Same b.info ∧ a.amount = b.amount

instance (a b : Asset) : Decidable (a.Same b) := inferInstanceAs (Decidable (_ ∧ _))

theorem Asset.Same.refl (a : Asset) : a.Same a := ⟨rfl, rfl⟩

theorem Asset.Same.symm {a b : Asset} (same : a.Same b) : b.Same a :=
  ⟨Eq.symm same.1, same.2.symm⟩

/-- One effect, with the asset that it moves described in two ways. -/
inductive Effect.Same : Effect → Effect → Prop where
  | transfer {a b : Asset} (same : a.Same b) (recipient : Holder) :
    Same (.transfer a recipient) (.transfer b recipient)
  | transferFrom {a b : Asset} (same : a.Same b) (owner : Holder) :
    Same (.transferFrom a owner) (.transferFrom b owner)
  | mintShares (recipient : Holder) (amount : Int) :
    Same (.mintShares recipient amount) (.mintShares recipient amount)
  | burnShares (owner : Holder) (amount : Int) :
    Same (.burnShares owner amount) (.burnShares owner amount)
  | unknown (name : String) : Same (.unknown name) (.unknown name)

namespace Balances

variable {a b : AssetInfo}

theorem get_congr (same : a.Same b) (balances : Balances) (holder : Holder) :
    balances.get holder a = balances.get holder b :=
  congrArg (fun id => balances.table.get (holder, id)) same

theorem add_congr (same : a.Same b) (balances : Balances) (holder : Holder) (delta : Int) :
    balances.add holder a delta = balances.add holder b delta := by
  have id : a.id = b.id := same
  unfold add set get AssetInfo.name
  rw [id]

theorem transfer_congr (same : a.Same b) (balances : Balances) (sender recipient : Holder)
    (amount : Int) :
    balances.transfer sender recipient a amount = balances.transfer sender recipient b amount := by
  simp only [transfer, subtract, add_congr same]

end Balances

namespace Books

theorem carry_congr {effect other : Effect} (same : effect.Same other) (account : Holder)
    (books : Books) : books.carry account effect = books.carry account other := by
  cases same with
  | transfer same recipient => simp only [carry, Balances.transfer_congr same.1, same.2]
  | transferFrom same owner => simp only [carry, Balances.transfer_congr same.1, same.2]
  | mintShares recipient amount => rfl
  | burnShares owner amount => rfl
  | unknown name => rfl

theorem carryAll_congr {effects others : List Effect}
    (same : List.Forall₂ Effect.Same effects others) (account : Holder) (books : Books) :
    books.carryAll account effects = books.carryAll account others := by
  induction same generalizing books with
  | nil => rfl
  | cons first _ ih =>
    simp only [carryAll, List.foldlM_cons, carry_congr first]
    exact congrArg _ (funext ih)

end Books

namespace Ledger

theorem balance_congr {a b : AssetInfo} (same : a.Same b) (ledger : Ledger) (holder : Holder) :
    ledger.balance holder a = ledger.balance holder b :=
  Balances.get_congr same ledger.books.balances holder

theorem mint_congr {a b : Asset} (same : a.Same b) (ledger : Ledger) (holder : Holder) :
    ledger.mint holder a = ledger.mint holder b := by
  simp only [mint, Balances.add_congr same.1, same.2]

theorem receive_congr {a b : Asset} (same : a.Same b) (ledger : Ledger) (sender : Holder) :
    ledger.receive sender a = ledger.receive sender b := by
  simp only [receive, Balances.transfer_congr same.1, same.2]

theorem applyEffects_congr {effects others : List Effect}
    (same : List.Forall₂ Effect.Same effects others) (ledger : Ledger) :
    ledger.applyEffects effects = ledger.applyEffects others := by
  simp only [applyEffects, Books.carryAll_congr same]

end Ledger

end VeiledPool
