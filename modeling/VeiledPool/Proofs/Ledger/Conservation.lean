import VeiledPool.Proofs.Ledger.Effect

/-! # What effects conserve

Effects move funds between holders and never create or destroy any, so what all
holders have of an asset is the same before and after. Shares are created and
destroyed together with their supply. No operation leaves a row without a number.
-/

namespace VeiledPool

namespace Balances

variable {balances after : Balances} {holder sender recipient : Holder} {asset : AssetInfo}
  {amount delta : Int}

theorem total_add (granted : balances.add holder asset delta = .ok after) (info : AssetInfo) :
    (after.total info : Int) = balances.total info + if info.id = asset.id then delta else 0 := by
  obtain ⟨enough, rfl⟩ := add_eq_ok_iff.1 granted
  have written := balances.table.sumOf_set (fun key => key.2 = info.id) (holder, asset.id)
    ((balances.get holder asset : Int) + delta).toNat
  simp only [total, get] at enough written ⊢
  by_cases same : info.id = asset.id
  · simp only [same, decide_true, if_true] at written ⊢
    omega
  · simp only [same, Ne.symm same, decide_false, Bool.false_eq_true, if_false] at written ⊢
    omega

theorem total_transfer (granted : balances.transfer sender recipient asset amount = .ok after)
    (info : AssetInfo) : after.total info = balances.total info := by
  obtain ⟨-, debited, debit, credit⟩ := transfer_eq_ok_iff.1 granted
  have taken := total_add debit info
  have given := total_add credit info
  by_cases same : info.id = asset.id
  · simp only [same, if_true] at taken given
    omega
  · simp only [same, if_false] at taken given
    omega

theorem positive_add (granted : balances.add holder asset delta = .ok after)
    (positive : balances.table.Positive) : after.table.Positive := by
  obtain ⟨-, rfl⟩ := add_eq_ok_iff.1 granted
  exact Tally.positive_set positive _ _

theorem positive_transfer (granted : balances.transfer sender recipient asset amount = .ok after)
    (positive : balances.table.Positive) : after.table.Positive := by
  obtain ⟨-, debited, debit, credit⟩ := transfer_eq_ok_iff.1 granted
  exact positive_add credit (positive_add debit positive)

end Balances

namespace Shares

variable {shares after : Shares} {holder : Holder} {amount : Int}

theorem positive_mint (granted : shares.mint holder amount = .ok after)
    (positive : shares.table.Positive) : after.table.Positive := by
  rcases mint_eq_ok granted with ⟨rfl, -⟩ | rfl
  · exact positive
  · exact Tally.positive_set positive _ _

theorem positive_burn (granted : shares.burn holder amount = .ok after)
    (positive : shares.table.Positive) : after.table.Positive := by
  obtain ⟨held, rfl⟩ := burn_eq_ok granted
  exact Tally.positive_set positive _ _

end Shares

namespace Books

/-- No row stands for nothing. -/
structure Sound (books : Books) : Prop where
  balances : books.balances.table.Positive
  shares : books.shares.table.Positive

theorem sound_empty : Sound empty :=
  ⟨Tally.positive_empty, Tally.positive_empty⟩

variable {account : Holder} {books after : Books} {effect : Effect} {effects : List Effect}

theorem sound_carry (carried : books.carry account effect = .ok after) (sound : Sound books) :
    Sound after := by
  refine ⟨?balances, ?shares⟩
  case balances =>
    rcases carry_cases carried with
      ⟨paid, recipient, rfl, moved, -⟩ | ⟨pulled, owner, rfl, moved, -⟩ |
      ⟨recipient, amount, rfl, -, same⟩ | ⟨owner, amount, rfl, -, same⟩
    · exact Balances.positive_transfer moved sound.balances
    · exact Balances.positive_transfer moved sound.balances
    · exact same ▸ sound.balances
    · exact same ▸ sound.balances
  case shares =>
    rcases carry_cases carried with
      ⟨paid, recipient, rfl, -, same⟩ | ⟨pulled, owner, rfl, -, same⟩ |
      ⟨recipient, amount, rfl, minted, -⟩ | ⟨owner, amount, rfl, burned, -⟩
    · exact same ▸ sound.shares
    · exact same ▸ sound.shares
    · exact Shares.positive_mint minted sound.shares
    · exact Shares.positive_burn burned sound.shares

theorem total_carry (carried : books.carry account effect = .ok after) (asset : AssetInfo) :
    after.balances.total asset = books.balances.total asset := by
  rcases carry_cases carried with
    ⟨paid, recipient, rfl, moved, -⟩ | ⟨pulled, owner, rfl, moved, -⟩ |
    ⟨recipient, amount, rfl, -, same⟩ | ⟨owner, amount, rfl, -, same⟩
  · exact Balances.total_transfer moved asset
  · exact Balances.total_transfer moved asset
  · rw [same]
  · rw [same]

theorem sound_carryAll (carried : books.carryAll account effects = .ok after)
    (sound : Sound books) : Sound after :=
  carryAll_preserves Sound (fun _ _ _ _ first => sound_carry first) carried sound

theorem total_carryAll (carried : books.carryAll account effects = .ok after)
    (asset : AssetInfo) : after.balances.total asset = books.balances.total asset := by
  apply carryAll_preserves (·.balances.total asset = books.balances.total asset) _ carried rfl
  intro effect _ now next first same
  exact (total_carry first asset).trans same

end Books

end VeiledPool
