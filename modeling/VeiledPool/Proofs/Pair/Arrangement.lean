import VeiledPool.Proofs.Asset.Order
import VeiledPool.Proofs.Pair.Deposit

/-! # Arranging two assets

Two assets have one arrangement, whichever is given first, unless they are the same
asset. New pairs are made in that arrangement and restored ones have to be in it, so
every asset is on one side of a pair at most.
-/

namespace VeiledPool

namespace AssetPair

variable {a b : AssetInfo} {pair : AssetPair} {fault : Fault}

theorem infos_inj {other : AssetPair} : pair.infos = other.infos ↔ pair = other := by
  cases pair
  cases other
  simp [infos]

theorem arrange_eq_error_iff :
    arrange a b = .error fault ↔ a.Same b ∧ fault = .invalidAsset (.twice a.name) := by
  by_cases same : a.Same b
  · simp [arrange, same, eq_comm]
  · simp [arrange, same]

theorem arrange_eq_ok_iff :
    arrange a b = .ok pair ↔
      (a.id.Precedes b.id ∧ pair.infos = (a, b)) ∨ (b.id.Precedes a.id ∧ pair.infos = (b, a)) := by
  have given : arrange a b = .ok pair ↔ ∃ distinct, ofDistinct a b distinct = pair := by
    by_cases same : a.Same b <;> simp [arrange, same]
  rw [given]
  constructor
  · rintro ⟨distinct, rfl⟩
    by_cases first : a.id.Precedes b.id
    · exact .inl ⟨first, by simp [ofDistinct, first, infos]⟩
    · have second := AssetId.precedes_of_not_precedes distinct first
      exact .inr ⟨second, by simp [ofDistinct, first, infos]⟩
  · rintro (⟨first, listed⟩ | ⟨second, listed⟩)
    · exact ⟨AssetId.ne_of_precedes first,
        infos_inj.1 (by simp [ofDistinct, first, infos, ← listed])⟩
    · have first := AssetId.not_precedes_of_precedes second
      exact ⟨(AssetId.ne_of_precedes second).symm,
        infos_inj.1 (by simp [ofDistinct, first, infos, ← listed])⟩

theorem arrange_comm (a b : AssetInfo) : arrange a b = arrange b a := by
  by_cases same : a.Same b
  · have names : a.name = b.name := congrArg AssetId.name same
    simp [arrange, same, show b.Same a from same.symm, names]
  · have reversed : ¬ b.Same a := fun turned => same turned.symm
    simp [arrange, same, reversed, ofDistinct_comm same reversed]

theorem exists_arrange (distinct : ¬ a.Same b) : ∃ pair, arrange a b = .ok pair :=
  ⟨ofDistinct a b distinct, by simp [arrange, distinct]⟩

end AssetPair

def AssetInfo.ComesFirst (a b : AssetInfo) : Prop :=
  ∃ pair, AssetPair.arrange a b = .ok pair ∧ pair.infos = (a, b)

theorem AssetInfo.comesFirst_iff {a b : AssetInfo} : a.ComesFirst b ↔ a.id.Precedes b.id := by
  constructor
  · rintro ⟨pair, arranged, listed⟩
    rcases AssetPair.arrange_eq_ok_iff.1 arranged with ⟨first, -⟩ | ⟨second, turned⟩
    · exact first
    · cases listed.symm.trans turned
      exact second
  · intro first
    exact ⟨⟨a, b, first⟩, AssetPair.arrange_eq_ok_iff.2 (.inl ⟨first, rfl⟩), rfl⟩

namespace Pair

variable {a b : AssetInfo} {pair : Pair} {token : Spelling}

theorem ofAssets_eq_ok_iff {assets : AssetPair} :
    ofAssets assets (.text token) = .ok pair ↔
      (pair.assets = assets ∧ pair.token = token) ∧ pair.volume0 = 0 ∧ pair.volume1 = 0 := by
  obtain ⟨ordered, name, named, volume0, volume1⟩ := pair
  by_cases empty : token = ""
  · simp only [ofAssets, empty, dite_true, reduceCtorEq, false_iff]
    rintro ⟨⟨-, rfl⟩, -⟩
    exact named rfl
  · simp [ofAssets, empty, eq_comm, and_assoc]

theorem create_comm (a b : AssetInfo) (token : Scalar) :
    create [a, b] token = create [b, a] token := by
  simp only [create, AssetPair.arrange_comm a b]

theorem create_eq_ok_iff :
    create [a, b] (.text token) = .ok pair ↔
      (AssetPair.arrange a b = .ok pair.assets ∧ pair.token = token) ∧
        pair.volume0 = 0 ∧ pair.volume1 = 0 := by
  simp only [create, bind_eq_ok, ofAssets_eq_ok_iff]
  constructor
  · rintro ⟨assets, arranged, ⟨rfl, tokens⟩, volumes⟩
    exact ⟨⟨arranged, tokens⟩, volumes⟩
  · rintro ⟨⟨arranged, tokens⟩, volumes⟩
    exact ⟨_, arranged, ⟨rfl, tokens⟩, volumes⟩

theorem restore_eq_ok_iff {volume0 volume1 : Int} :
    restore [a, b] (.text token) volume0 volume1 = .ok pair ↔
      (AssetPair.arrange a b = .ok pair.assets ∧ pair.assets.infos = (a, b)) ∧
        pair.token = token ∧ pair.volume0 = volume0 ∧ pair.volume1 = volume1 := by
  simp only [restore, bind_eq_ok]
  constructor
  · rintro ⟨assets, arranged, accepted⟩
    split at accepted
    case isFalse => cases accepted
    case isTrue listed =>
      obtain ⟨fresh, made, counted⟩ := bind_eq_ok.1 accepted
      split at counted
      case isTrue => cases counted
      case isFalse natural =>
        obtain ⟨⟨rfl, rfl⟩, -⟩ := ofAssets_eq_ok_iff.1 made
        cases counted
        exact ⟨⟨arranged, Prod.ext listed.1 listed.2⟩, rfl, by simp; omega, by simp; omega⟩
  · rintro ⟨⟨arranged, listed⟩, rfl, rfl, rfl⟩
    have given := Prod.mk.inj listed
    have made : ofAssets pair.assets (.text pair.token) =
        .ok { pair with volume0 := 0, volume1 := 0 } :=
      ofAssets_eq_ok_iff.2 ⟨⟨rfl, rfl⟩, rfl, rfl⟩
    have natural : ¬ ((pair.volume0 : Int) < 0 ∨ (pair.volume1 : Int) < 0) := by omega
    exact ⟨pair.assets, arranged, by rw [if_pos given, made, ok_bind, if_neg natural]; rfl⟩

theorem exists_create (distinct : ¬ a.Same b) (named : token ≠ "") :
    ∃ pair, create [a, b] (.text token) = .ok pair := by
  obtain ⟨assets, arranged⟩ := AssetPair.exists_arrange distinct
  exact ⟨⟨assets, token, named, 0, 0⟩, create_eq_ok_iff.2 ⟨⟨arranged, rfl⟩, rfl, rfl⟩⟩

/-- Two assets have one canonical order, that of their keys, which new pairs are brought into
    and restored pairs have to be in; assets that are the same have none. An asset is on the
    side of the pair where its like is, and on no other. -/
theorem order_is_canonical :
    (∀ a b : AssetInfo,
      (a.Same b ↔ a.id.sortKey = b.id.sortKey) ∧
      (a.Same b ↔ (∃ cause, AssetPair.arrange a b = .error (.invalidAsset cause)) ∧
        ∃ cause, AssetPair.arrange b a = .error (.invalidAsset cause)) ∧
      (¬ a.Same b → ∃ pair, AssetPair.arrange a b = .ok pair ∧ AssetPair.arrange b a = .ok pair ∧
        (pair.infos = (a, b) ∨ pair.infos = (b, a)))) ∧
    ((∀ a b : AssetInfo, a.ComesFirst b ↔ a.id.Precedes b.id) ∧
      IsStrictTotalOrder AssetId AssetId.Precedes ∧
      ∀ a b : AssetId, a.Precedes b ↔
        a.kind = .native ∧ b.kind = .token ∨ a.kind = b.kind ∧ a.name.points < b.name.points) ∧
    (∀ (a b : AssetInfo) (token : Spelling), token ≠ "" →
      create [a, b] (.text token) = create [b, a] (.text token) ∧
      ((∃ fault, create [a, b] (.text token) = .error fault) ↔ a.Same b)) ∧
    (∀ (a b : AssetInfo) (token : Spelling) (volume0 volume1 : Nat), token ≠ "" →
      ((∃ pair, restore [a, b] (.text token) volume0 volume1 = .ok pair) ↔ a.ComesFirst b)) ∧
    ∀ (pair : Pair) (asset : AssetInfo),
      (∀ side, pair.sideOf asset = .ok side ↔ asset.Same (pair.info side)) ∧
      ¬ (asset.Same (pair.info .first) ∧ asset.Same (pair.info .second)) ∧
      ((∃ cause, pair.sideOf asset = .error (.invalidAsset cause)) ↔
        ¬ asset.Same (pair.info .first) ∧ ¬ asset.Same (pair.info .second)) := by
  refine ⟨?arranged, ⟨fun _ _ => AssetInfo.comesFirst_iff, AssetId.isStrictTotalOrder_precedes,
    fun _ _ => AssetId.precedes_iff⟩, ?created, ?restored, ?sided⟩
  case arranged =>
    intro a b
    refine ⟨AssetId.sortKey_inj.symm, ⟨fun same => ?_, ?_⟩, fun distinct => ?_⟩
    · exact ⟨⟨_, AssetPair.arrange_eq_error_iff.2 ⟨same, rfl⟩⟩,
        ⟨_, AssetPair.arrange_eq_error_iff.2 ⟨Eq.symm same, rfl⟩⟩⟩
    · rintro ⟨⟨cause, refused⟩, -⟩
      exact (AssetPair.arrange_eq_error_iff.1 refused).1
    · obtain ⟨pair, arranged⟩ := AssetPair.exists_arrange distinct
      refine ⟨pair, arranged, (AssetPair.arrange_comm b a).trans arranged, ?_⟩
      exact (AssetPair.arrange_eq_ok_iff.1 arranged).imp And.right And.right
  case created =>
    intro a b token named
    refine ⟨create_comm a b _, ?_, fun same => ?_⟩
    · rintro ⟨fault, refused⟩
      by_contra distinct
      obtain ⟨pair, created⟩ := exists_create distinct named
      cases refused.symm.trans created
    · have refused := AssetPair.arrange_eq_error_iff.2 ⟨same, rfl⟩
      exact ⟨_, by rw [create, refused, error_bind]⟩
  case restored =>
    intro a b token volume0 volume1 named
    constructor
    · rintro ⟨pair, restored⟩
      exact ⟨pair.assets, (restore_eq_ok_iff.1 restored).1⟩
    · rintro ⟨assets, arranged, listed⟩
      exact ⟨⟨assets, token, named, volume0, volume1⟩,
        restore_eq_ok_iff.2 ⟨⟨arranged, listed⟩, rfl, rfl, rfl⟩⟩
  case sided =>
    intro pair asset
    refine ⟨fun _ => sideOf_eq_ok_iff, ?_, ?_, ?_⟩
    · rintro ⟨first, second⟩
      exact pair.info_first_ne_second (first.symm.trans second)
    · rintro ⟨cause, refused⟩
      rw [← not_or]
      intro trades
      obtain ⟨side, sided⟩ := exists_sideOf trades
      cases refused.symm.trans sided
    · rintro ⟨first, second⟩
      exact ⟨_, sideOf_eq_error (not_or.2 ⟨first, second⟩)⟩

def sampleShared (kind : AssetKind) : AssetInfo :=
  ⟨⟨kind, "shared"⟩, .text "c0de", by simp⟩

theorem order_is_canonical_sample :
    ¬ (sampleShared .token).Same (sampleShared .native) ∧ Spelling.text "lp" ≠ "" ∧
      (∃ pair, AssetPair.arrange (sampleShared .token) (sampleShared .native) = .ok pair ∧
        AssetPair.arrange (sampleShared .native) (sampleShared .token) = .ok pair) ∧
      create [sampleShared .token, sampleShared .native] (.text "lp") =
        create [sampleShared .native, sampleShared .token] (.text "lp") ∧
      ∃ pair, restore [sampleShared .native, sampleShared .token] (.text "lp") (5 : Nat)
        (6 : Nat) = .ok pair := by
  obtain ⟨arranged, ⟨first, -⟩, created, restored, -⟩ := order_is_canonical
  have distinct : ¬ (sampleShared .token).Same (sampleShared .native) := by decide
  obtain ⟨pair, one, other, -⟩ := (arranged _ _).2.2 distinct
  refine ⟨distinct, by decide, ⟨pair, one, other⟩, (created _ _ "lp" (by decide)).1, ?_⟩
  exact (restored _ _ "lp" 5 6 (by decide)).2 ((first _ _).2 (by decide))

end Pair

end VeiledPool
