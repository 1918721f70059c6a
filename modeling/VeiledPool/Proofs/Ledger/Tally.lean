import VeiledPool.Ledger.Tally

/-! # Numbers of tallies

No number exceeds the sum of all, and no row stands for nothing.
-/

namespace VeiledPool.Tally

variable {κ : Type} [DecidableEq κ]

theorem get_le_sum (tally : Tally κ) (key : κ) : tally.get key ≤ tally.sum := by
  have erased := tally.sum_set key 0
  omega

def Positive (tally : Tally κ) : Prop :=
  ∀ row ∈ tally.rows, 0 < row.2

omit [DecidableEq κ] in
theorem positive_empty : (empty : Tally κ).Positive := by
  intro row member
  cases member

theorem positive_set {tally : Tally κ} (positive : tally.Positive) (key : κ) (value : Nat) :
    (tally.set key value).Positive := by
  have kept : ∀ row ∈ without tally.rows key, 0 < row.2 :=
    fun row member => positive row (List.mem_filter.1 member).1
  by_cases zero : value = 0
  · rw [Positive, set, if_pos zero]
    exact kept
  · rw [Positive, set, if_neg zero]
    intro row member
    rcases List.mem_cons.1 member with rfl | member
    · exact Nat.pos_of_ne_zero zero
    · exact kept row member

end VeiledPool.Tally
