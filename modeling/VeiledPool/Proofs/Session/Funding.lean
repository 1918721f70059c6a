import VeiledPool.Exchange.Basic
import VeiledPool.Proofs.Pair.Side
import VeiledPool.Proofs.Session.Turn

/-! # Funds sent along

Funds that come in raise the balances of the pair by what they amount to and
touch no shares. `arrived` is that amount for one asset. Of a deposit the native
part arrives in this way, and effects collect the rest.
-/

namespace VeiledPool

def arrived (funds : List (Holder × Asset)) (asset : AssetId) : Nat :=
  (funds.map fun fund => if asset = fund.2.info.id then fund.2.amount else 0).sum

@[simp]
theorem arrived_nil (asset : AssetId) : arrived [] asset = 0 := rfl

@[simp]
theorem arrived_cons (fund : Holder × Asset) (rest : List (Holder × Asset)) (asset : AssetId) :
    arrived (fund :: rest) asset =
      (if asset = fund.2.info.id then fund.2.amount else 0) + arrived rest asset := rfl

namespace Books

variable {account : Holder} {books after : Books} {funds : List (Holder × Asset)}

theorem balance_funded
    (funded : books.carryAll account (funds.map fun fund => .transferFrom fund.2 fund.1) =
      .ok after)
    (apart : ∀ fund ∈ funds, fund.1 ≠ account) (asset : AssetInfo) :
    after.balances.get account asset =
      books.balances.get account asset + arrived funds asset.id := by
  induction funds generalizing books with
  | nil =>
    cases carryAll_nil_eq_ok.1 funded
    rfl
  | cons fund rest ih =>
    obtain ⟨next, first, others⟩ := carryAll_cons_eq_ok.1 funded
    have moved := balance_carry first account asset
    have foreign : account ≠ fund.1 := (apart fund (by simp)).symm
    rw [ih others fun later member => apart later (List.mem_cons_of_mem _ member), arrived_cons]
    simp only [Effect.balanceChange, Balances.flow, foreign, if_true, if_false] at moved
    by_cases here : asset.id = fund.2.info.id
    · simp only [here, if_true] at moved ⊢
      omega
    · simp only [here, if_false] at moved ⊢
      omega

theorem shares_funded
    (funded : books.carryAll account (funds.map fun fund => .transferFrom fund.2 fund.1) =
      .ok after) : after.shares = books.shares := by
  apply carryAll_preserves (·.shares = books.shares) _ funded rfl
  intro effect member now next carried same
  obtain ⟨fund, -, rfl⟩ := List.mem_map.1 member
  obtain ⟨balances, moved, written⟩ := bind_eq_ok.1 carried
  cases pure_eq_ok.1 written
  exact same

end Books

namespace Action

theorem sender_of_mem_funds {action : Action} {fund : Holder × Asset}
    (member : fund ∈ action.funds) : action.sender? = some fund.1 := by
  cases action with
  | swap order =>
    cases List.mem_singleton.1 member
    rfl
  | provide order =>
    obtain ⟨asset, -, rfl⟩ := List.mem_map.1 member
    rfl
  | withdraw order => cases member
  | unreadable fault => cases member

theorem funds_apart {action : Action} {account : Holder}
    (apart : action.sender? ≠ some account) {fund : Holder × Asset}
    (member : fund ∈ action.funds) : fund.1 ≠ account := by
  rintro rfl
  exact apart (sender_of_mem_funds member)

theorem arrived_swap (order : SwapOrder) (asset : AssetId) :
    arrived (swap order).funds asset =
      if asset = order.offer.info.id then order.offer.amount else 0 := by
  simp [funds]

theorem arrived_provide {order : ProvideOrder} {pair : Pair} {deposits : Nat × Nat}
    (matched : pair.matchAssets order.assets = .ok deposits) (side : Side) :
    arrived (provide order).funds (pair.info side).id =
      if (pair.info side).isNative then side.of deposits else 0 := by
  obtain ⟨deposit0, deposit1⟩ := deposits
  obtain ⟨asset0, asset1, listed, ⟨first, rfl⟩, second, rfl⟩ := Pair.matchAssets_eq_ok_iff.1 matched
  have native0 := AssetInfo.isNative_eq_of_id_eq first
  have native1 := AssetInfo.isNative_eq_of_id_eq second
  have distinct := pair.info_first_ne_second
  simp only [funds]
  rcases listed with listed | listed <;> cases side <;>
    cases onFirst : (pair.info .first).isNative <;>
      cases onSecond : (pair.info .second).isNative <;>
        simp [listed, native0, native1, onFirst, onSecond, first, second, distinct, distinct.symm]

end Action

namespace Exchange

variable {account sender : Holder}

theorem balanceChange_collect_eq_flow (account sender holder : Holder) (pool : Asset)
    (deposit : Nat) (asset : AssetId) :
    ((collect pool deposit sender).map (Effect.balanceChange account holder asset)).sum =
      if pool.info.isNative then 0
      else Balances.flow sender account pool.info.id deposit holder asset := by
  cases native : pool.info.isNative <;> simp [collect, native, Effect.balanceChange]

theorem balanceChange_collect (apart : sender ≠ account) (pool : Asset) (deposit : Nat)
    (asset : AssetId) :
    ((collect pool deposit sender).map (Effect.balanceChange account account asset)).sum =
      if asset = pool.info.id ∧ pool.info.isNative = false then (deposit : Int) else 0 := by
  rw [balanceChange_collect_eq_flow]
  cases native : pool.info.isNative <;> simp [Balances.flow, apart.symm]

theorem supplyChange_collect (pool : Asset) (deposit : Nat) :
    ((collect pool deposit sender).map Effect.supplyChange).sum = 0 := by
  cases native : pool.info.isNative <;> simp [collect, native, Effect.supplyChange]

end Exchange

end VeiledPool
