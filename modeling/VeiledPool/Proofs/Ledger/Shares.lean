import VeiledPool.Ledger.Shares
import VeiledPool.Proofs.Ledger.Tally

/-! # What share operations do

Minting and burning move one holding and the supply by the same amount.
-/

namespace VeiledPool.Shares

variable {shares after : Shares} {holder : Holder} {amount : Int}

/-- Minting and burning keep the supply the sum of all holdings. -/
theorem consistent_eq_true (shares : Shares) : shares.consistent = true := by
  simp [consistent, shares.whole]

theorem get_le_supply (shares : Shares) (holder : Holder) : shares.get holder ≤ shares.supply :=
  shares.whole ▸ shares.table.get_le_sum holder

theorem get_credit (shares : Shares) (holder : Holder) (amount : Nat) (other : Holder) :
    (shares.credit holder amount).get other =
      shares.get other + if other = holder then amount else 0 := by
  by_cases here : other = holder
  · subst here
    simp [credit, get]
  · simp [credit, get, Tally.get_set_of_ne _ here, here]

theorem get_debit {amount : Nat} (held : amount ≤ shares.get holder) (other : Holder) :
    (shares.debit holder amount held).get other =
      shares.get other - if other = holder then amount else 0 := by
  by_cases here : other = holder
  · subst here
    simp [debit, get]
  · simp [debit, get, Tally.get_set_of_ne _ here, here]

theorem mint_granted_iff : (∃ after, shares.mint holder amount = .ok after) ↔ 0 ≤ amount := by
  by_cases negative : amount < 0
  · simp [mint, negative, Int.not_le.2 negative]
  · by_cases zero : amount = 0 <;> simp [mint, negative, zero, Int.not_lt.1 negative]

theorem mint_eq_error_iff {fault : Fault} :
    shares.mint holder amount = .error fault ↔
      amount < 0 ∧ fault = .badValue (.negative "Mint amount" amount) := by
  by_cases negative : amount < 0
  · simp [mint, negative, eq_comm]
  · by_cases zero : amount = 0 <;> simp [mint, negative, zero]

theorem mint_eq_ok (granted : shares.mint holder amount = .ok after) :
    after = shares ∧ amount = 0 ∨ after = shares.credit holder amount.toNat := by
  have positive := mint_granted_iff.1 ⟨after, granted⟩
  rw [mint, if_neg (Int.not_lt.2 positive)] at granted
  split at granted
  · cases granted
    exact .inl ⟨rfl, by assumption⟩
  · cases granted
    exact .inr rfl

theorem get_mint (granted : shares.mint holder amount = .ok after) (other : Holder) :
    (after.get other : Int) = shares.get other + if other = holder then amount else 0 := by
  have positive := mint_granted_iff.1 ⟨after, granted⟩
  rcases mint_eq_ok granted with ⟨rfl, rfl⟩ | rfl
  · simp
  · rw [get_credit]
    split <;> omega

theorem supply_mint (granted : shares.mint holder amount = .ok after) :
    (after.supply : Int) = shares.supply + amount := by
  have positive := mint_granted_iff.1 ⟨after, granted⟩
  rcases mint_eq_ok granted with ⟨rfl, rfl⟩ | rfl
  · omega
  · simp only [credit]
    omega

theorem burn_granted_iff :
    (∃ after, shares.burn holder amount = .ok after) ↔
      0 ≤ amount ∧ amount ≤ shares.get holder := by
  by_cases negative : amount < 0
  · simp [burn, negative, Int.not_le.2 negative]
  · by_cases short : (shares.get holder : Int) < amount
    · simp [burn, negative, short, Int.not_le.2 short]
    · simp [burn, negative, short, Int.not_lt.1 negative, Int.not_lt.1 short]

theorem burn_eq_error_iff {fault : Fault} :
    shares.burn holder amount = .error fault ↔
      (amount < 0 ∧ fault = .badValue (.negative "Burn amount" amount)) ∨
        ((shares.get holder : Int) < amount ∧
          fault = .badValue (.shareShortfall holder (shares.get holder) amount)) := by
  by_cases negative : amount < 0
  · have held : ¬ (shares.get holder : Int) < amount := by omega
    simp [burn, negative, held, eq_comm]
  · by_cases short : (shares.get holder : Int) < amount <;> simp [burn, negative, short, eq_comm]

theorem burn_eq_ok (granted : shares.burn holder amount = .ok after) :
    ∃ held, after = shares.debit holder amount.toNat held := by
  obtain ⟨positive, enough⟩ := burn_granted_iff.1 ⟨after, granted⟩
  rw [burn, if_neg (Int.not_lt.2 positive), dif_neg (Int.not_lt.2 enough)] at granted
  cases granted
  exact ⟨_, rfl⟩

theorem get_burn (granted : shares.burn holder amount = .ok after) (other : Holder) :
    (after.get other : Int) = shares.get other - if other = holder then amount else 0 := by
  obtain ⟨positive, enough⟩ := burn_granted_iff.1 ⟨after, granted⟩
  obtain ⟨held, rfl⟩ := burn_eq_ok granted
  rw [get_debit held]
  split
  · subst other
    omega
  · omega

theorem supply_burn (granted : shares.burn holder amount = .ok after) :
    (after.supply : Int) = shares.supply - amount := by
  obtain ⟨positive, enough⟩ := burn_granted_iff.1 ⟨after, granted⟩
  have held := shares.get_le_supply holder
  obtain ⟨_, rfl⟩ := burn_eq_ok granted
  simp only [debit]
  omega

end VeiledPool.Shares
