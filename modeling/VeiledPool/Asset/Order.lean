import VeiledPool.Asset.Basic
import VeiledPool.Text.Order

/-! # Canonical order of assets

Native currencies come before tokens, and within a kind names are compared by
code point. The order looks at identities only, so two assets of one pair always
have exactly one canonical arrangement.
-/

namespace VeiledPool

/-- One identity comes strictly before another. -/
def AssetId.Precedes (a b : AssetId) : Prop :=
  a.kind.rank < b.kind.rank ∨
    a.kind = b.kind ∧ Text.precedes a.name.points b.name.points = true

instance (a b : AssetId) : Decidable (a.Precedes b) :=
  inferInstanceAs (Decidable (_ ∨ _ ∧ _))

namespace AssetId

theorem not_precedes_self (a : AssetId) : ¬ a.Precedes a := by
  simp [Precedes]

/-- Of two different identities one comes first. -/
theorem precedes_of_not_precedes {a b : AssetId} (distinct : a ≠ b) (h : ¬ a.Precedes b) :
    b.Precedes a := by
  obtain ⟨aKind, aName⟩ := a
  obtain ⟨bKind, bName⟩ := b
  simp only [Precedes, not_or, not_and, Bool.not_eq_true] at h ⊢
  cases aKind <;> cases bKind <;> simp_all [AssetKind.rank]
  all_goals exact Text.precedes_of_ne (fun equal => distinct (Spelling.points_inj.1 equal)) h

end AssetId

/-- Two different assets in canonical order. -/
structure AssetPair where
  first : AssetInfo
  second : AssetInfo
  ordered : first.id.Precedes second.id
  deriving DecidableEq, Repr

namespace AssetPair

/-- Arranges two different assets. -/
def ofDistinct (a b : AssetInfo) (distinct : ¬ a.Same b) : AssetPair :=
  if h : a.id.Precedes b.id then ⟨a, b, h⟩
  else ⟨b, a, AssetId.precedes_of_not_precedes distinct h⟩

/-- Arranges two assets; an asset makes no pair with itself. -/
def arrange (a b : AssetInfo) : Except Fault AssetPair :=
  if same : a.Same b then .error (.invalidAsset (.twice a.name))
  else .ok (ofDistinct a b same)

/-- Both assets, in order. -/
def infos (pair : AssetPair) : AssetInfo × AssetInfo := (pair.first, pair.second)

end AssetPair

end VeiledPool
