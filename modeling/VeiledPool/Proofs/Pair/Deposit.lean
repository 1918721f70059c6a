import Mathlib.Data.List.Permutation
import VeiledPool.Proofs.Ledger.Identity
import VeiledPool.Proofs.Pair.Side

/-! # Deposits in any order

A deposit is a list of amounts. Whether it fits the pair, and with which amounts, is
decided by the identities and amounts in the list, not by their order and not by how
the assets are described. A list that does not fit is always a mismatch of assets.
-/

namespace VeiledPool

namespace Asset

def entry (asset : Asset) : AssetId × Nat := (asset.info.id, asset.amount)

theorem entry_eq_of_same {a b : Asset} (same : a.Same b) : a.entry = b.entry :=
  Prod.ext same.1 same.2

theorem entries_perm {assets turned others : List Asset} (reordered : assets.Perm turned)
    (same : List.Forall₂ Same turned others) : (assets.map entry).Perm (others.map entry) := by
  have respelled : turned.map entry = others.map entry := by
    clear reordered
    induction same with
    | nil => rfl
    | cons first _ ih => rw [List.map_cons, List.map_cons, entry_eq_of_same first, ih]
  rw [← respelled]
  exact reordered.map entry

theorem exists_of_entries {assets : List Asset} {entry0 entry1 : AssetId × Nat}
    (listed : assets.map entry = [entry0, entry1]) :
    ∃ asset0 asset1, assets = [asset0, asset1] ∧ asset0.entry = entry0 ∧ asset1.entry = entry1 := by
  obtain ⟨asset0, rest, rfl, first, others⟩ := List.map_eq_cons_iff.1 listed
  obtain ⟨asset1, rfl, second⟩ := List.map_eq_singleton_iff.1 others
  exact ⟨asset0, asset1, rfl, first, second⟩

end Asset

namespace Pair

variable {pair : Pair} {assets others : List Asset} {amounts : Nat × Nat}

theorem sideOf_congr {a b : AssetInfo} (same : a.Same b) (pair : Pair) :
    pair.sideOf a = pair.sideOf b := by
  have fits (info : AssetInfo) : info.Same a ↔ info.Same b :=
    ⟨fun first => first.trans same, fun second => second.trans same.symm⟩
  have name : a.name = b.name := congrArg AssetId.name same
  simp only [sideOf, fits, name]

theorem matchAssets_eq_ok_iff_perm :
    pair.matchAssets assets = .ok amounts ↔
      (assets.map Asset.entry).Perm
        [((pair.info .first).id, amounts.1), ((pair.info .second).id, amounts.2)] := by
  obtain ⟨amount0, amount1⟩ := amounts
  rw [matchAssets_eq_ok_iff, List.perm_pair]
  constructor
  · rintro ⟨asset0, asset1, rfl | rfl, ⟨first, rfl⟩, second, rfl⟩
    · exact .inl (by simp [Asset.entry, first, second])
    · exact .inr (by simp [Asset.entry, first, second])
  · rintro (listed | listed)
    · obtain ⟨asset0, asset1, rfl, first, second⟩ := Asset.exists_of_entries listed
      exact ⟨asset0, asset1, .inl rfl, Prod.mk.inj first, Prod.mk.inj second⟩
    · obtain ⟨asset1, asset0, rfl, second, first⟩ := Asset.exists_of_entries listed
      exact ⟨asset0, asset1, .inr rfl, Prod.mk.inj first, Prod.mk.inj second⟩

theorem matchAssets_eq_ok_congr (listed : (assets.map Asset.entry).Perm (others.map Asset.entry)) :
    pair.matchAssets assets = .ok amounts ↔ pair.matchAssets others = .ok amounts := by
  rw [matchAssets_eq_ok_iff_perm, matchAssets_eq_ok_iff_perm]
  exact ⟨listed.symm.trans, listed.trans⟩

/-- The fault is one of the assets, not of their amounts. -/
def IsMismatch (fault : Fault) : Prop :=
  ∃ cause, fault = .invalidAsset cause

theorem sideOf_failsOnly (pair : Pair) (asset : AssetInfo) :
    FailsOnly IsMismatch (pair.sideOf asset) := by
  unfold sideOf
  split_ifs
  · exact failsOnly_ok _
  · exact failsOnly_ok _
  · exact failsOnly_error ⟨_, rfl⟩

theorem matchFrom_failsOnly (pair : Pair) (found : Found) (assets : List Asset) :
    FailsOnly IsMismatch (pair.matchFrom found assets) := by
  induction assets generalizing found with
  | nil => exact failsOnly_ok _
  | cons asset rest ih =>
    refine failsOnly_bind (pair.sideOf_failsOnly asset.info) fun side => ?_
    split
    · exact failsOnly_error ⟨_, rfl⟩
    · exact ih _

theorem matchAssets_failsOnly (pair : Pair) (assets : List Asset) :
    FailsOnly IsMismatch (pair.matchAssets assets) := by
  refine failsOnly_bind (pair.matchFrom_failsOnly _ assets) fun found => ?_
  split
  · exact failsOnly_ok _
  · exact failsOnly_error ⟨_, rfl⟩

end Pair

end VeiledPool
