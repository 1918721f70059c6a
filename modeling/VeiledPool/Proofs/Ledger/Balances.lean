import VeiledPool.Ledger.Balances
import VeiledPool.Proofs.Fault.Sequence

/-! # What balance operations do

Every operation is described by the balances that `get` shows: which request is
granted, and how much each balance moves. A transfer moves two balances at once;
`flow` is what it adds to any one of them, and a transfer to oneself adds nothing.
-/

namespace VeiledPool.Balances

/-- What a transfer adds to the balance of `holder` in `other`. -/
def flow (sender recipient : Holder) (asset : AssetId) (amount : Int) (holder : Holder)
    (other : AssetId) : Int :=
  if other = asset then
    (if holder = recipient then amount else 0) - (if holder = sender then amount else 0)
  else 0

@[simp]
theorem flow_self (sender recipient : Holder) (asset : AssetId) (amount : Int) (holder : Holder) :
    flow sender recipient asset amount holder asset =
      (if holder = recipient then amount else 0) - (if holder = sender then amount else 0) := by
  simp [flow]

theorem flow_of_ne (sender recipient : Holder) {asset other : AssetId} (amount : Int)
    (holder : Holder) (apart : other ≠ asset) :
    flow sender recipient asset amount holder other = 0 := by
  simp [flow, apart]

variable {balances after : Balances} {holder sender recipient : Holder} {asset : AssetInfo}
  {amount delta : Int}

theorem add_eq_ok_iff :
    balances.add holder asset delta = .ok after ↔
      0 ≤ (balances.get holder asset : Int) + delta ∧
        after = ⟨balances.table.set (holder, asset.id)
          ((balances.get holder asset : Int) + delta).toNat⟩ := by
  by_cases short : (balances.get holder asset : Int) + delta < 0
  · simp [add, short, Int.not_le.2 short]
  · simp [add, set, short, Int.not_lt.1 short, eq_comm]

theorem get_add (granted : balances.add holder asset delta = .ok after) (other : Holder)
    (info : AssetInfo) :
    (after.get other info : Int) =
      balances.get other info + if other = holder ∧ info.id = asset.id then delta else 0 := by
  obtain ⟨enough, rfl⟩ := add_eq_ok_iff.1 granted
  by_cases here : (other, info.id) = (holder, asset.id)
  · obtain ⟨rfl, same⟩ := Prod.mk.injEq .. ▸ here
    simp only [get, same, Tally.get_set_self, and_self, if_true] at enough ⊢
    exact Int.toNat_of_nonneg enough
  · have elsewhere : ¬ (other = holder ∧ info.id = asset.id) := by simpa using here
    simp [get, Tally.get_set_of_ne _ here, elsewhere]

theorem transfer_eq_ok_iff :
    balances.transfer sender recipient asset amount = .ok after ↔
      0 ≤ amount ∧ ∃ debited, balances.add sender asset (-amount) = .ok debited ∧
        debited.add recipient asset amount = .ok after := by
  by_cases negative : amount < 0
  · simp [transfer, negative, Int.not_le.2 negative]
  · simp only [transfer, subtract, negative, if_false, bind_eq_ok, Int.not_lt.1 negative, true_and]

theorem add_eq_error_iff {fault : Fault} :
    balances.add holder asset delta = .error fault ↔
      (balances.get holder asset : Int) + delta < 0 ∧
        fault = .badValue (.balanceShortfall asset.name holder (balances.get holder asset) delta) := by
  by_cases short : (balances.get holder asset : Int) + delta < 0
  · simp [add, short, eq_comm]
  · simp [add, set, short]

/-- An amount is refused only to a sender who lacks it; crediting it never fails. -/
theorem transfer_eq_error_iff {amount : Nat} {fault : Fault} :
    balances.transfer sender recipient asset amount = .error fault ↔
      balances.get sender asset < amount ∧
        fault = .badValue
          (.balanceShortfall asset.name sender (balances.get sender asset) (-amount)) := by
  have positive : ¬ (amount : Int) < 0 := by omega
  simp only [transfer, subtract, positive, if_false, bind_eq_error, add_eq_error_iff]
  constructor
  · rintro (⟨short, rfl⟩ | ⟨debited, -, short, -⟩)
    · exact ⟨by omega, rfl⟩
    · omega
  · rintro ⟨short, rfl⟩
    exact .inl ⟨by omega, rfl⟩

theorem get_transfer (granted : balances.transfer sender recipient asset amount = .ok after)
    (other : Holder) (info : AssetInfo) :
    (after.get other info : Int) =
      balances.get other info + flow sender recipient asset.id amount other info.id := by
  obtain ⟨-, debited, debit, credit⟩ := transfer_eq_ok_iff.1 granted
  rw [get_add credit, get_add debit]
  by_cases here : info.id = asset.id
  · simp only [here, and_true, flow_self]
    split <;> split <;> omega
  · simp [here, flow_of_ne _ _ _ _ here]

end VeiledPool.Balances
