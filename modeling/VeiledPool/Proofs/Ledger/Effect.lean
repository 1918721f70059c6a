import Mathlib.Tactic.Ring
import VeiledPool.Ledger.Effect
import VeiledPool.Proofs.Ledger.Balances
import VeiledPool.Proofs.Ledger.Shares

/-! # What effects add up to

An effect that is carried out adds a fixed amount to each balance, to each share
holding and to the supply, whatever the books hold. A list of effects therefore
adds the sums of these amounts, and books that are known only before and after
can be compared figure by figure.
-/

namespace VeiledPool

namespace Effect

/-- What the effect adds to the balance of `holder` in `asset`. -/
def balanceChange (account holder : Holder) (asset : AssetId) : Effect → Int
  | transfer paid recipient =>
    Balances.flow account recipient paid.info.id paid.amount holder asset
  | transferFrom pulled owner =>
    Balances.flow owner account pulled.info.id pulled.amount holder asset
  | mintShares .. | burnShares .. | unknown _ => 0

def shareChange (holder : Holder) : Effect → Int
  | mintShares recipient amount => if holder = recipient then amount else 0
  | burnShares owner amount => -(if holder = owner then amount else 0)
  | transfer .. | transferFrom .. | unknown _ => 0

def supplyChange : Effect → Int
  | mintShares _ amount => amount
  | burnShares _ amount => -amount
  | transfer .. | transferFrom .. | unknown _ => 0

end Effect

namespace Books

variable {account : Holder} {books after : Books} {effect : Effect} {effects rest : List Effect}

/-- The four ways in which an effect is carried out; each leaves one table alone. -/
theorem carry_cases (carried : books.carry account effect = .ok after) :
    (∃ asset recipient, effect = .transfer asset recipient ∧
      books.balances.transfer account recipient asset.info asset.amount = .ok after.balances ∧
      after.shares = books.shares) ∨
    (∃ asset owner, effect = .transferFrom asset owner ∧
      books.balances.transfer owner account asset.info asset.amount = .ok after.balances ∧
      after.shares = books.shares) ∨
    (∃ recipient amount, effect = .mintShares recipient amount ∧
      books.shares.mint recipient amount = .ok after.shares ∧
      after.balances = books.balances) ∨
    (∃ owner amount, effect = .burnShares owner amount ∧
      books.shares.burn owner amount = .ok after.shares ∧
      after.balances = books.balances) := by
  cases effect with
  | transfer asset recipient =>
    obtain ⟨balances, moved, same⟩ := bind_eq_ok.1 carried
    cases pure_eq_ok.1 same
    exact .inl ⟨asset, recipient, rfl, moved, rfl⟩
  | transferFrom asset owner =>
    obtain ⟨balances, moved, same⟩ := bind_eq_ok.1 carried
    cases pure_eq_ok.1 same
    exact .inr (.inl ⟨asset, owner, rfl, moved, rfl⟩)
  | mintShares recipient amount =>
    obtain ⟨shares, minted, same⟩ := bind_eq_ok.1 carried
    cases pure_eq_ok.1 same
    exact .inr (.inr (.inl ⟨recipient, amount, rfl, minted, rfl⟩))
  | burnShares owner amount =>
    obtain ⟨shares, burned, same⟩ := bind_eq_ok.1 carried
    cases pure_eq_ok.1 same
    exact .inr (.inr (.inr ⟨owner, amount, rfl, burned, rfl⟩))
  | unknown name => cases carried

theorem shares_transfer {asset : Asset} {recipient : Holder}
    (carried : books.carry account (.transfer asset recipient) = .ok after) :
    after.shares = books.shares := by
  obtain ⟨balances, moved, same⟩ := bind_eq_ok.1 carried
  cases pure_eq_ok.1 same
  rfl

theorem balance_carry (carried : books.carry account effect = .ok after) (holder : Holder)
    (asset : AssetInfo) :
    (after.balances.get holder asset : Int) =
      books.balances.get holder asset + effect.balanceChange account holder asset.id := by
  rcases carry_cases carried with
    ⟨paid, recipient, rfl, moved, -⟩ | ⟨pulled, owner, rfl, moved, -⟩ |
    ⟨recipient, amount, rfl, -, same⟩ | ⟨owner, amount, rfl, -, same⟩
  · exact Balances.get_transfer moved holder asset
  · exact Balances.get_transfer moved holder asset
  · simp [same, Effect.balanceChange]
  · simp [same, Effect.balanceChange]

theorem shares_carry (carried : books.carry account effect = .ok after) (holder : Holder) :
    (after.shares.get holder : Int) = books.shares.get holder + effect.shareChange holder := by
  rcases carry_cases carried with
    ⟨paid, recipient, rfl, -, same⟩ | ⟨pulled, owner, rfl, -, same⟩ |
    ⟨recipient, amount, rfl, minted, -⟩ | ⟨owner, amount, rfl, burned, -⟩
  · simp [same, Effect.shareChange]
  · simp [same, Effect.shareChange]
  · exact Shares.get_mint minted holder
  · exact Shares.get_burn burned holder

theorem supply_carry (carried : books.carry account effect = .ok after) :
    (after.shares.supply : Int) = books.shares.supply + effect.supplyChange := by
  rcases carry_cases carried with
    ⟨paid, recipient, rfl, -, same⟩ | ⟨pulled, owner, rfl, -, same⟩ |
    ⟨recipient, amount, rfl, minted, -⟩ | ⟨owner, amount, rfl, burned, -⟩
  · simp [same, Effect.supplyChange]
  · simp [same, Effect.supplyChange]
  · exact Shares.supply_mint minted
  · exact Shares.supply_burn burned

theorem carryAll_nil_eq_ok : books.carryAll account [] = .ok after ↔ books = after := by
  simp [carryAll, pure_eq_ok]

theorem carryAll_cons_eq_ok :
    books.carryAll account (effect :: rest) = .ok after ↔
      ∃ next, books.carry account effect = .ok next ∧ next.carryAll account rest = .ok after := by
  simp [carryAll, bind_eq_ok]

theorem carryAll_singleton (effect : Effect) :
    books.carryAll account [effect] = books.carry account effect := by
  simp [carryAll]

theorem carryAll_preserves (invariant : Books → Prop)
    (preserved : ∀ effect ∈ effects, ∀ books after, books.carry account effect = .ok after →
      invariant books → invariant after)
    (carried : books.carryAll account effects = .ok after) (start : invariant books) :
    invariant after := by
  induction effects generalizing books with
  | nil =>
    cases carryAll_nil_eq_ok.1 carried
    exact start
  | cons effect rest ih =>
    obtain ⟨next, first, others⟩ := carryAll_cons_eq_ok.1 carried
    apply ih _ others (preserved effect (by simp) books next first start)
    intro later member
    exact preserved later (List.mem_cons_of_mem _ member)

/-- A figure that every effect changes by a fixed amount changes by the sum. -/
theorem figure_carryAll (figure : Books → Int) {change : Effect → Int}
    (moved : ∀ books effect after, books.carry account effect = .ok after →
      figure after = figure books + change effect)
    (carried : books.carryAll account effects = .ok after) :
    figure after = figure books + (effects.map change).sum := by
  induction effects generalizing books with
  | nil =>
    cases carryAll_nil_eq_ok.1 carried
    simp
  | cons effect rest ih =>
    obtain ⟨next, first, others⟩ := carryAll_cons_eq_ok.1 carried
    rw [ih others, moved _ _ _ first, List.map_cons, List.sum_cons, Int.add_assoc]

theorem balance_carryAll (carried : books.carryAll account effects = .ok after)
    (holder : Holder) (asset : AssetInfo) :
    (after.balances.get holder asset : Int) = books.balances.get holder asset +
      (effects.map (Effect.balanceChange account holder asset.id)).sum := by
  apply figure_carryAll (fun books => books.balances.get holder asset) _ carried
  intro books effect after carried
  exact balance_carry carried holder asset

theorem shares_carryAll (carried : books.carryAll account effects = .ok after)
    (holder : Holder) :
    (after.shares.get holder : Int) = books.shares.get holder +
      (effects.map (Effect.shareChange holder)).sum := by
  apply figure_carryAll (fun books => books.shares.get holder) _ carried
  intro books effect after carried
  exact shares_carry carried holder

theorem supply_carryAll (carried : books.carryAll account effects = .ok after) :
    (after.shares.supply : Int) =
      books.shares.supply + (effects.map Effect.supplyChange).sum := by
  apply figure_carryAll (fun books => books.shares.supply) _ carried
  intro books effect after carried
  exact supply_carry carried

end Books

end VeiledPool
