import Mathlib.Data.List.Lex
import Mathlib.Data.Prod.Lex
import VeiledPool.Asset.Order

/-! # Sort keys of assets

An identity is sorted by the place of its kind and then by its name, and names go by
code point. So the order of identities is that of their keys, which is total, and only
descriptions of one asset share a key. Two assets are therefore arranged in the same way
in whatever order they are given.
-/

namespace VeiledPool

theorem Text.precedes_iff_lt {left right : List Nat} :
    precedes left right = true ↔ left < right := by
  induction left, right using precedes.induct with
  | case1 => simp [precedes]
  | case2 d others => simp [precedes]
  | case3 c rest => simp [precedes]
  | case4 c rest d others ih => simp [precedes, List.cons_lt_cons_iff, ih]

theorem AssetKind.rank_inj {a b : AssetKind} : a.rank = b.rank ↔ a = b := by
  cases a <;> cases b <;> simp [rank]

theorem AssetKind.rank_lt_rank {a b : AssetKind} : a.rank < b.rank ↔ a = native ∧ b = token := by
  cases a <;> cases b <;> simp [rank]

namespace AssetId

variable {a b : AssetId}

def sortKey (id : AssetId) : Nat ×ₗ List Nat := toLex (id.kind.rank, id.name.points)

theorem sortKey_inj : a.sortKey = b.sortKey ↔ a = b := by
  obtain ⟨aKind, aName⟩ := a
  obtain ⟨bKind, bName⟩ := b
  simp [sortKey, AssetKind.rank_inj, Spelling.points_inj]

theorem ne_of_precedes (first : a.Precedes b) : a ≠ b := by
  rintro rfl
  exact not_precedes_self _ first

theorem precedes_iff :
    a.Precedes b ↔
      a.kind = .native ∧ b.kind = .token ∨ a.kind = b.kind ∧ a.name.points < b.name.points := by
  rw [Precedes, AssetKind.rank_lt_rank, Text.precedes_iff_lt]

theorem precedes_iff_sortKey_lt : a.Precedes b ↔ a.sortKey < b.sortKey := by
  rw [Precedes, Text.precedes_iff_lt, sortKey, sortKey, Prod.Lex.toLex_lt_toLex,
    AssetKind.rank_inj]

theorem not_precedes_of_precedes (first : a.Precedes b) : ¬ b.Precedes a := by
  rw [precedes_iff_sortKey_lt] at first ⊢
  exact lt_asymm first

theorem isStrictTotalOrder_precedes : IsStrictTotalOrder AssetId Precedes where
  irrefl := not_precedes_self
  trans a b c first second := by
    rw [precedes_iff_sortKey_lt] at first second ⊢
    exact first.trans second
  trichotomous a b neither reversed := by
    rw [precedes_iff_sortKey_lt, not_lt] at neither reversed
    exact sortKey_inj.1 (le_antisymm reversed neither)

end AssetId

namespace AssetPair

theorem ofDistinct_comm {a b : AssetInfo} (distinct : ¬ a.Same b) (reversed : ¬ b.Same a) :
    ofDistinct a b distinct = ofDistinct b a reversed := by
  unfold ofDistinct
  by_cases first : a.id.Precedes b.id
  · rw [dif_pos first, dif_neg (AssetId.not_precedes_of_precedes first)]
  · rw [dif_neg first, dif_pos (AssetId.precedes_of_not_precedes distinct first)]

end AssetPair

end VeiledPool
