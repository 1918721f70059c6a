import VeiledPool.Proofs.Exchange.Verdict
import VeiledPool.Proofs.Ledger.Identity
import VeiledPool.Proofs.Pair.Deposit

/-! # Actions on assets, not on descriptions

Callers may list a deposit in any order and describe assets with any code hash. What
an action comes to depends on neither: only the offer that a swap repeats is repeated
as it was described, and everything that is paid, collected or refunded is described
as in the pair.
-/

namespace VeiledPool

/-- The same action, with assets described in another way and deposits listed in another
    order. -/
inductive Action.Respells : Action → Action → Prop where
  | swap (order : SwapOrder) {offer : Asset} (same : order.offer.Same offer) :
    Respells (.swap order) (.swap { order with offer })
  | provide (order : ProvideOrder) {turned assets : List Asset}
    (reordered : order.assets.Perm turned) (same : List.Forall₂ Asset.Same turned assets) :
    Respells (.provide order) (.provide { order with assets })
  | withdraw (order : WithdrawOrder) : Respells (.withdraw order) (.withdraw order)
  | unreadable (fault : Fault) : Respells (.unreadable fault) (.unreadable fault)

inductive Outcome.Agrees : Outcome → Outcome → Prop where
  | swap (result : SwapResult) {offer : Asset} (same : result.offer.Same offer) :
    Agrees (.swap result) (.swap { result with offer })
  | provide (result : ProvideResult) : Agrees (.provide result) (.provide result)
  | withdraw (result : WithdrawResult) : Agrees (.withdraw result) (.withdraw result)

/-- Both accept, with one new pair and agreeing outcomes, or both reject with one code. -/
inductive Report.Agrees : Report → Report → Prop where
  | accepted (pair : Pair) {outcome other : Outcome} (agrees : outcome.Agrees other) :
    Agrees (.accepted pair outcome) (.accepted pair other)
  | rejected {fault other : Fault} (code : fault.rejectionCode = other.rejectionCode) :
    Agrees (.rejected fault) (.rejected other)

theorem Outcome.Agrees.refl (outcome : Outcome) : outcome.Agrees outcome := by
  cases outcome with
  | swap result => exact .swap result (.refl result.offer)
  | provide result => exact .provide result
  | withdraw result => exact .withdraw result

theorem Report.Agrees.refl (report : Report) : report.Agrees report := by
  cases report with
  | accepted pair outcome => exact .accepted pair (.refl outcome)
  | rejected fault => exact .rejected rfl

namespace Exchange

variable {ledger : Ledger} {rate : CommissionRate} {pair : Pair}

theorem swap_respelled (order : SwapOrder) {offer : Asset} (same : order.offer.Same offer) :
    swap ledger rate pair { order with offer } =
      (fun result => { result with offer }) <$> swap ledger rate pair order := by
  simp only [swap, map_bind, map_pure, Pair.sideOf_congr same.1, same.2]

theorem offer_of_swap {order : SwapOrder} {result : SwapResult}
    (swapped : swap ledger rate pair order = .ok result) : result.offer = order.offer := by
  obtain ⟨side, fill, terms⟩ := swap_eq_ok_iff.1 swapped
  exact terms.echoed

theorem provide_relisted (ledger : Ledger) (pair : Pair) (order : ProvideOrder)
    {assets : List Asset}
    (listed : (order.assets.map Asset.entry).Perm (assets.map Asset.entry)) :
    provide ledger pair { order with assets } = provide ledger pair order ∨
      ∃ cause other, provide ledger pair order = .error (.invalidAsset cause) ∧
        provide ledger pair { order with assets } = .error (.invalidAsset other) := by
  cases matched : pair.matchAssets order.assets with
  | ok amounts =>
    have rematched := (Pair.matchAssets_eq_ok_congr listed).1 matched
    left
    simp only [provide, matched, rematched]
  | error fault =>
    cases rematched : pair.matchAssets assets with
    | ok amounts => cases matched.symm.trans ((Pair.matchAssets_eq_ok_congr listed).2 rematched)
    | error other =>
      obtain ⟨cause, rfl⟩ := pair.matchAssets_failsOnly _ _ matched
      obtain ⟨cause', rfl⟩ := pair.matchAssets_failsOnly _ _ rematched
      right
      exact ⟨cause, cause', by rw [provide, matched, error_bind],
        by rw [provide, rematched, error_bind]⟩

theorem handle_agrees {action other : Action} (respells : action.Respells other)
    (source : Entropy) :
    (handle ledger rate pair action source).1.Agrees (handle ledger rate pair other source).1 := by
  cases respells with
  | swap order same =>
    rw [handle_swap, handle_swap, swap_respelled order same]
    cases swapped : swap ledger rate pair order with
    | ok result =>
      refine .accepted result.pair (.swap result ?_)
      rw [offer_of_swap swapped]
      exact same
    | error fault => exact .rejected rfl
  | provide order reordered same =>
    rcases provide_relisted ledger pair order (Asset.entries_perm reordered same) with
      equal | ⟨cause, cause', refused, refused'⟩
    · simp only [handle, perform, equal]
      exact .refl _
    · simp only [handle, perform, refused, refused']
      exact .rejected rfl
  | withdraw order => exact .refl _
  | unreadable fault => exact .refl _

/-- A deposit fits exactly if it has two entries, one for each side, and is a mismatch
    otherwise. Actions that differ only in how assets are written down are answered alike,
    except that a swap repeats its offer as it was given. Entries in the ledger and looks into
    it do not differ at all. -/
theorem spelling_is_immaterial (ledger : Ledger) (rate : CommissionRate) (pair : Pair) :
    (∀ assets amounts, pair.matchAssets assets = .ok amounts ↔
      ∃ asset0 asset1, (assets = [asset0, asset1] ∨ assets = [asset1, asset0]) ∧
        asset0.Same ⟨pair.info .first, amounts.1⟩ ∧
        asset1.Same ⟨pair.info .second, amounts.2⟩) ∧
    (∀ assets, FailsOnly Pair.IsMismatch (pair.matchAssets assets)) ∧
    (∀ action other source, action.Respells other →
      (handle ledger rate pair action source).1.Agrees
        (handle ledger rate pair other source).1) ∧
    (∀ order source next result,
      (handle ledger rate pair (.swap order) source).1 = .accepted next (.swap result) →
        result.offer = order.offer) ∧
    (∀ holder (a b : Asset), a.Same b →
      ledger.mint holder a = ledger.mint holder b ∧
        ledger.receive holder a = ledger.receive holder b) ∧
    (∀ effects others, List.Forall₂ Effect.Same effects others →
      ledger.applyEffects effects = ledger.applyEffects others) ∧
    ∀ holder (a b : AssetInfo), a.Same b → ledger.balance holder a = ledger.balance holder b := by
  refine ⟨?matched, pair.matchAssets_failsOnly, ?handled, ?echoed, ?entered, ?applied, ?read⟩
  case matched =>
    intro assets amounts
    exact Pair.matchAssets_eq_ok_iff
  case handled =>
    intro action other source respells
    exact handle_agrees respells source
  case echoed =>
    intro order source next result accepted
    obtain ⟨_, swapped, same⟩ := map_eq_ok.1 (handle_fst_eq_accepted_iff.1 accepted).1
    cases same
    exact offer_of_swap swapped
  case entered =>
    intro holder a b same
    exact ⟨ledger.mint_congr same holder, ledger.receive_congr same holder⟩
  case applied =>
    intro effects others same
    exact ledger.applyEffects_congr same
  case read =>
    intro holder a b same
    exact ledger.balance_congr same holder

/-- The token of the example, with a code hash that its pair does not give. -/
def sampleHashed (amount : Nat) : Asset :=
  ⟨{ Session.sample.pair.info .second with codeHash := .text "c0de" }, amount⟩

def sampleListed : ProvideOrder :=
  { sender := "provider", assets := [Session.sampleAsset .first 100,
    Session.sampleAsset .second 400] }

def sampleRelisted : ProvideOrder :=
  { sampleListed with assets := [sampleHashed 400, Session.sampleAsset .first 100] }

theorem spelling_is_immaterial_sample :
    Action.Respells (.provide sampleListed) (.provide sampleRelisted) ∧
    Session.sample.pair.matchAssets sampleRelisted.assets = .ok (100, 400) ∧
    (handle Session.sampleFunded.ledger .standard Session.sample.pair
      (.provide sampleListed) (.script [] 0)).1.Agrees
        (handle Session.sampleFunded.ledger .standard Session.sample.pair
          (.provide sampleRelisted) (.script [] 0)).1 ∧
    (sampleHashed 400).Same (Session.sampleAsset .second 400) ∧
    Session.sampleFunded.ledger.mint "trader" (sampleHashed 400) =
      Session.sampleFunded.ledger.mint "trader" (Session.sampleAsset .second 400) := by
  obtain ⟨matched, -, handled, -, entered, -⟩ :=
    spelling_is_immaterial Session.sampleFunded.ledger .standard Session.sample.pair
  have same : (sampleHashed 400).Same (Session.sampleAsset .second 400) := ⟨rfl, rfl⟩
  have respells : Action.Respells (.provide sampleListed) (.provide sampleRelisted) :=
    .provide sampleListed (.swap _ _ _) (.cons same.symm (.cons (.refl _) .nil))
  refine ⟨respells, ?_, handled _ _ _ respells, same, (entered "trader" _ _ same).1⟩
  exact (matched _ _).2 ⟨_, _, .inr rfl, .refl _, same⟩

end Exchange

end VeiledPool
