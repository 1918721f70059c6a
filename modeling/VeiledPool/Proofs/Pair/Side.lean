import VeiledPool.Pair.Deposit
import VeiledPool.Proofs.Asset.Order
import VeiledPool.Proofs.Wide.Natural

/-! # Sides of a pair

The two assets of a pair differ, so an asset belongs to one side at most. A
deposit fits a pair exactly if it consists of one amount for each side.
-/

namespace VeiledPool

theorem AssetInfo.isNative_eq_of_id_eq {a b : AssetInfo} (same : a.id = b.id) :
    a.isNative = b.isNative := by
  rw [isNative, isNative, kind, kind, same]

namespace Pair

variable {pair : Pair} {side : Side} {asset : AssetInfo} {amount0 amount1 : Nat}

theorem first_id_ne_second (pair : Pair) : pair.assets.first.id ≠ pair.assets.second.id :=
  AssetId.ne_of_precedes pair.assets.ordered

theorem info_first_ne_second (pair : Pair) :
    (pair.info .first).id ≠ (pair.info .second).id :=
  pair.first_id_ne_second

theorem info_id_ne_other (pair : Pair) (side : Side) :
    (pair.info side).id ≠ (pair.info side.other).id := by
  cases side with
  | first => exact pair.first_id_ne_second
  | second => exact pair.first_id_ne_second.symm

theorem sideOf_eq_ok_iff : pair.sideOf asset = .ok side ↔ asset.id = (pair.info side).id := by
  have distinct := pair.first_id_ne_second
  by_cases onFirst : pair.assets.first.id = asset.id
  · cases side <;> simp_all [sideOf, AssetInfo.Same, info, AssetPair.infos]
  · by_cases onSecond : pair.assets.second.id = asset.id
    · cases side <;> simp_all [sideOf, AssetInfo.Same, info, AssetPair.infos, eq_comm]
    · cases side <;>
        simp_all [sideOf, AssetInfo.Same, info, AssetPair.infos, eq_comm]

def Trades (pair : Pair) (asset : AssetInfo) : Prop :=
  asset.id = (pair.info .first).id ∨ asset.id = (pair.info .second).id

instance (pair : Pair) (asset : AssetInfo) : Decidable (pair.Trades asset) :=
  inferInstanceAs (Decidable (_ ∨ _))

theorem exists_sideOf (trades : pair.Trades asset) : ∃ side, pair.sideOf asset = .ok side := by
  cases trades with
  | inl first => exact ⟨.first, sideOf_eq_ok_iff.2 first⟩
  | inr second => exact ⟨.second, sideOf_eq_ok_iff.2 second⟩

theorem sideOf_eq_error (foreign : ¬ pair.Trades asset) :
    pair.sideOf asset = .error (.invalidAsset
      (.stranger asset.name pair.assets.first.name pair.assets.second.name)) := by
  have first : ¬ pair.assets.first.Same asset := fun same => foreign (.inl same.symm)
  have second : ¬ pair.assets.second.Same asset := fun same => foreign (.inr same.symm)
  rw [sideOf, if_neg first, if_neg second]

theorem matchFrom_full {rest : List Asset} {found : Found} :
    pair.matchFrom (some amount0, some amount1) rest = .ok found ↔
      rest = [] ∧ found = (some amount0, some amount1) := by
  cases rest with
  | nil => simp [matchFrom, eq_comm]
  | cons asset rest =>
    simp only [matchFrom, bind_eq_ok, reduceCtorEq, false_and, iff_false, not_exists, not_and]
    intro side _
    cases side <;> simp

theorem matchFrom_cons_eq_ok_iff {found after : Found} {asset : Asset} {rest : List Asset} :
    pair.matchFrom found (asset :: rest) = .ok after ↔
      ∃ side, asset.info.id = (pair.info side).id ∧ side.of found = none ∧
        pair.matchFrom (enter found side asset.amount) rest = .ok after := by
  simp only [matchFrom, bind_eq_ok, sideOf_eq_ok_iff]
  constructor
  · rintro ⟨side, same, matched⟩
    split at matched
    · cases matched
    · rename_i free
      exact ⟨side, same, by simpa using free, matched⟩
  · rintro ⟨side, same, free, matched⟩
    exact ⟨side, same, by simpa [free] using matched⟩

theorem matchAssets_eq_ok_iff_matchFrom {assets : List Asset} :
    pair.matchAssets assets = .ok (amount0, amount1) ↔
      pair.matchFrom (none, none) assets = .ok (some amount0, some amount1) := by
  simp only [matchAssets, bind_eq_ok]
  constructor
  · rintro ⟨found, matched, complete⟩
    split at complete
    · cases complete
      exact matched
    · cases complete
  · intro matched
    exact ⟨_, matched, rfl⟩

theorem matchAssets_eq_ok_iff {assets : List Asset} :
    pair.matchAssets assets = .ok (amount0, amount1) ↔
      ∃ asset0 asset1, (assets = [asset0, asset1] ∨ assets = [asset1, asset0]) ∧
        (asset0.info.id = (pair.info .first).id ∧ asset0.amount = amount0) ∧
        (asset1.info.id = (pair.info .second).id ∧ asset1.amount = amount1) := by
  rw [matchAssets_eq_ok_iff_matchFrom]
  constructor
  · intro matched
    cases assets with
    | nil => simp [matchFrom] at matched
    | cons one rest =>
      obtain ⟨side, onSide, -, matched⟩ := matchFrom_cons_eq_ok_iff.1 matched
      cases rest with
      | nil => cases side <;> simp [matchFrom, enter] at matched
      | cons two rest =>
        obtain ⟨next, onNext, free, matched⟩ := matchFrom_cons_eq_ok_iff.1 matched
        -- The second entry can only be on the side that the first one left free.
        cases side <;> cases next <;> simp [enter] at free matched
        · obtain ⟨rfl, same⟩ := matchFrom_full.1 matched
          exact ⟨one, two, .inl rfl, by simp_all, by simp_all⟩
        · obtain ⟨rfl, same⟩ := matchFrom_full.1 matched
          exact ⟨two, one, .inr rfl, by simp_all, by simp_all⟩
  · rintro ⟨asset0, asset1, rfl | rfl, ⟨first, rfl⟩, second, rfl⟩
    · exact matchFrom_cons_eq_ok_iff.2 ⟨.first, first, rfl,
        matchFrom_cons_eq_ok_iff.2 ⟨.second, second, rfl, rfl⟩⟩
    · exact matchFrom_cons_eq_ok_iff.2 ⟨.second, second, rfl,
        matchFrom_cons_eq_ok_iff.2 ⟨.first, first, rfl, rfl⟩⟩

/-- The pair with another offer counted on one side. -/
def withOffer (pair : Pair) : Side → Nat → Pair
  | .first, amount => { pair with volume0 := pair.volume0 + amount }
  | .second, amount => { pair with volume1 := pair.volume1 + amount }

theorem addVolume_eq_ok_iff {next : Pair} {amount : Nat} :
    pair.addVolume side amount = .ok next ↔
      pair.volume side + amount ≤ amountMax ∧ next = pair.withOffer side amount := by
  simp only [addVolume, ← Int.natCast_add, bind_eq_ok, narrow_natCast_eq_ok_iff]
  constructor
  · rintro ⟨_, ⟨small, rfl⟩, written⟩
    cases side <;> exact ⟨small, (pure_eq_ok.1 written).symm⟩
  · rintro ⟨small, rfl⟩
    exact ⟨_, ⟨small, rfl⟩, by cases side <;> rfl⟩

theorem addVolume_natCast (pair : Pair) (side : Side) (amount : Nat) :
    pair.addVolume side amount =
      if amountMax < pair.volume side + amount then
        .error (Fault.overflow
          (.narrowing (volumeName side) (pair.volume side + amount : Nat))).raised
      else .ok (pair.withOffer side amount) := by
  split
  · rename_i large
    have outside : ¬ ((pair.volume side + amount : Nat) : Int) ≤ amountMax := by omega
    simp only [addVolume, ← Int.natCast_add, narrow, outside, and_false, if_false, error_bind]
  · rename_i small
    exact addVolume_eq_ok_iff.2 ⟨Nat.not_lt.1 small, rfl⟩

theorem addVolume_assets {next : Pair} {amount : Int}
    (counted : pair.addVolume side amount = .ok next) : next.assets = pair.assets := by
  obtain ⟨volume, -, written⟩ := bind_eq_ok.1 counted
  cases side with
  | first =>
    cases pure_eq_ok.1 written
    rfl
  | second =>
    cases pure_eq_ok.1 written
    rfl

end Pair

end VeiledPool
