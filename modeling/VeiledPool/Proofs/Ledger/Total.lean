import Mathlib.Algebra.BigOperators.Finprod
import VeiledPool.Proofs.Ledger.Shares

/-! # Totals are sums over holders

A total is computed row by row. Since every key has one row at most and keys without
a row count for nothing, it is the sum of what `get` shows over all keys, of which
only finitely many count. With both, a total can be stated without the table.
-/

namespace VeiledPool

namespace Tally

variable {κ : Type} [DecidableEq κ]

theorem lookup_of_mem {rows : List (κ × Nat)} (distinct : (rows.map (·.1)).Nodup) {key : κ}
    {value : Nat} (member : (key, value) ∈ rows) : rows.lookup key = some value := by
  induction rows with
  | nil => cases member
  | cons row rest ih =>
    obtain ⟨fresh, distinctRest⟩ := List.nodup_cons.1 distinct
    rcases List.mem_cons.1 member with rfl | later
    · exact List.lookup_cons_self
    · have apart : key ≠ row.1 := fun same =>
        fresh (List.mem_map.2 ⟨(key, value), later, same⟩)
      rw [List.lookup_cons, beq_false_of_ne apart]
      exact ih distinctRest later

theorem get_of_mem (tally : Tally κ) {row : κ × Nat} (member : row ∈ tally.rows) :
    tally.get row.1 = row.2 := by
  rw [get, lookup_of_mem tally.distinct member, Option.getD_some]

theorem get_eq_zero_of_not_mem (tally : Tally κ) {key : κ}
    (absent : key ∉ tally.rows.map (·.1)) : tally.get key = 0 := by
  have missing : tally.rows.lookup key = none := by
    rw [List.lookup_eq_none_iff]
    intro row member
    have : key ≠ row.1 := fun same => absent (same ▸ List.mem_map_of_mem member)
    simpa using this
  rw [get, missing, Option.getD_none]

theorem finite_support_get (tally : Tally κ) : (Function.support tally.get).Finite := by
  refine (tally.rows.map (·.1)).toFinset.finite_toSet.subset fun key counts => ?_
  by_contra absent
  exact counts (tally.get_eq_zero_of_not_mem (by simpa using absent))

theorem sumOf_eq_sum_map (tally : Tally κ) (wanted : κ → Bool) :
    tally.sumOf wanted = (((tally.rows.map (·.1)).filter wanted).map tally.get).sum := by
  have shown : ∀ row ∈ tally.rows, tally.get row.1 = row.2 := fun _ => tally.get_of_mem
  rw [sumOf]
  generalize tally.rows = rows at shown
  induction rows with
  | nil => rfl
  | cons row rest ih =>
    have later := ih fun other member => shown other (List.mem_cons_of_mem _ member)
    by_cases counted : wanted row.1 = true
    · simp [counted, later, shown row List.mem_cons_self]
    · simpa [counted] using later

theorem sumOf_eq_finsum (tally : Tally κ) (wanted : κ → Bool) :
    tally.sumOf wanted = ∑ᶠ key ∈ {key | wanted key = true}, tally.get key := by
  rw [sumOf_eq_sum_map, ← List.sum_toFinset _ (tally.distinct.filter wanted)]
  refine (finsum_mem_eq_sum_of_inter_support_eq _ ?_).symm
  ext key
  have stored : tally.get key ≠ 0 → key ∈ tally.rows.map (·.1) := fun counts =>
    by_contra fun absent => counts (tally.get_eq_zero_of_not_mem absent)
  simp only [Set.mem_inter_iff, Set.mem_ofPred_eq, Function.mem_support, List.coe_toFinset,
    List.mem_filter]
  tauto

theorem sum_eq_finsum (tally : Tally κ) : tally.sum = ∑ᶠ key, tally.get key := by
  rw [sum_eq_sumOf, sumOf_eq_finsum]
  simp

end Tally

namespace Balances

theorem total_eq_finsum (balances : Balances) (asset : AssetInfo) :
    balances.total asset = ∑ᶠ holder, balances.get holder asset := by
  have held : {key : Holder × AssetId | decide (key.2 = asset.id) = true} =
      Set.range fun holder => (holder, asset.id) := by
    ext ⟨holder, id⟩
    simp [eq_comm]
  rw [total, Tally.sumOf_eq_finsum, held, finsum_mem_range]
  · rfl
  · exact Prod.mk_left_injective asset.id

theorem finite_holders (balances : Balances) (asset : AssetInfo) :
    (Function.support fun holder => balances.get holder asset).Finite :=
  balances.table.finite_support_get.preimage (Prod.mk_left_injective asset.id).injOn

end Balances

namespace Shares

theorem supply_eq_finsum (shares : Shares) : shares.supply = ∑ᶠ holder, shares.get holder := by
  rw [← shares.whole, Tally.sum_eq_finsum]
  rfl

end Shares

end VeiledPool
