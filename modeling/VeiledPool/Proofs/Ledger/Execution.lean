import VeiledPool.Ledger.Basic
import VeiledPool.Proofs.Ledger.Effect

/-! # One effect after the other

Effects are carried out in order, each on what the ones before it left. An effect
is refused for one of five reasons, all of them read off the books as it finds
them, so a list either runs to its end or stops at a first effect with a known
fault. `Books.carryAll` answers accordingly.
-/

namespace VeiledPool

/-- Why an effect cannot be carried out on the books as they are. -/
inductive Effect.Refused (account : Holder) (books : Books) : Effect → Fault → Prop where
  | unpayable {asset : Asset} {recipient : Holder}
    (short : books.balances.get account asset.info < asset.amount) :
    Refused account books (.transfer asset recipient)
      (.badValue (.balanceShortfall asset.info.name account
        (books.balances.get account asset.info) (-asset.amount)))
  | uncollectable {asset : Asset} {owner : Holder}
    (short : books.balances.get owner asset.info < asset.amount) :
    Refused account books (.transferFrom asset owner)
      (.badValue (.balanceShortfall asset.info.name owner
        (books.balances.get owner asset.info) (-asset.amount)))
  | negativeMint {recipient : Holder} {amount : Int} (negative : amount < 0) :
    Refused account books (.mintShares recipient amount)
      (.badValue (.negative "Mint amount" amount))
  | negativeBurn {owner : Holder} {amount : Int} (negative : amount < 0) :
    Refused account books (.burnShares owner amount) (.badValue (.negative "Burn amount" amount))
  | overburned {owner : Holder} {amount : Int}
    (short : (books.shares.get owner : Int) < amount) :
    Refused account books (.burnShares owner amount)
      (.badValue (.shareShortfall owner (books.shares.get owner) amount))
  | unknown {name : String} :
    Refused account books (.unknown name) (.wrongType (.unknownEffect name))

namespace Books

inductive Carried (account : Holder) : Books → List Effect → Books → Prop where
  | done {books : Books} : Carried account books [] books
  | next {books middle after : Books} {effect : Effect} {rest : List Effect}
    (first : books.carry account effect = .ok middle)
    (others : Carried account middle rest after) :
    Carried account books (effect :: rest) after

inductive FirstFailure (account : Holder) : Books → List Effect → Effect → Fault → Prop where
  | here {books : Books} {effect : Effect} {rest : List Effect} {fault : Fault}
    (refused : effect.Refused account books fault) :
    FirstFailure account books (effect :: rest) effect fault
  | later {books middle : Books} {effect failing : Effect} {rest : List Effect} {fault : Fault}
    (first : books.carry account effect = .ok middle)
    (fails : FirstFailure account middle rest failing fault) :
    FirstFailure account books (effect :: rest) failing fault

variable {account : Holder} {books after : Books} {effect : Effect} {effects rest : List Effect}
  {fault : Fault}

theorem carry_eq_error_iff :
    books.carry account effect = .error fault ↔ effect.Refused account books fault := by
  cases effect with
  | transfer asset recipient =>
    rw [carry, bind_pure_eq_error, Balances.transfer_eq_error_iff]
    constructor
    · rintro ⟨short, rfl⟩
      exact .unpayable short
    · intro refused
      cases refused with
      | unpayable short => exact ⟨short, rfl⟩
  | transferFrom asset owner =>
    rw [carry, bind_pure_eq_error, Balances.transfer_eq_error_iff]
    constructor
    · rintro ⟨short, rfl⟩
      exact .uncollectable short
    · intro refused
      cases refused with
      | uncollectable short => exact ⟨short, rfl⟩
  | mintShares recipient amount =>
    rw [carry, bind_pure_eq_error, Shares.mint_eq_error_iff]
    constructor
    · rintro ⟨negative, rfl⟩
      exact .negativeMint negative
    · intro refused
      cases refused with
      | negativeMint negative => exact ⟨negative, rfl⟩
  | burnShares owner amount =>
    rw [carry, bind_pure_eq_error, Shares.burn_eq_error_iff]
    constructor
    · rintro (⟨negative, rfl⟩ | ⟨short, rfl⟩)
      · exact .negativeBurn negative
      · exact .overburned short
    · intro refused
      cases refused with
      | negativeBurn negative => exact .inl ⟨negative, rfl⟩
      | overburned short => exact .inr ⟨short, rfl⟩
  | unknown name =>
    rw [carry, Except.error.injEq]
    constructor
    · rintro rfl
      exact .unknown
    · intro refused
      cases refused with
      | unknown => rfl

theorem carryAll_eq_ok_iff :
    books.carryAll account effects = .ok after ↔ Carried account books effects after := by
  constructor
  · intro carried
    induction effects generalizing books with
    | nil =>
      cases carryAll_nil_eq_ok.1 carried
      exact .done
    | cons effect rest ih =>
      obtain ⟨middle, first, others⟩ := carryAll_cons_eq_ok.1 carried
      exact .next first (ih others)
  · intro carried
    induction carried with
    | done => exact carryAll_nil_eq_ok.2 rfl
    | next first _ ih => exact carryAll_cons_eq_ok.2 ⟨_, first, ih⟩

theorem carryAll_cons_eq_error :
    books.carryAll account (effect :: rest) = .error fault ↔
      books.carry account effect = .error fault ∨
        ∃ middle, books.carry account effect = .ok middle ∧
          middle.carryAll account rest = .error fault := by
  simp [carryAll, bind_eq_error]

theorem carryAll_eq_error_iff :
    books.carryAll account effects = .error fault ↔
      ∃ failing, FirstFailure account books effects failing fault := by
  constructor
  · intro failed
    induction effects generalizing books with
    | nil => cases failed
    | cons effect rest ih =>
      rcases carryAll_cons_eq_error.1 failed with refused | ⟨middle, first, others⟩
      · exact ⟨effect, .here (carry_eq_error_iff.1 refused)⟩
      · obtain ⟨failing, fails⟩ := ih others
        exact ⟨failing, .later first fails⟩
  · rintro ⟨failing, fails⟩
    induction fails with
    | here refused => exact carryAll_cons_eq_error.2 (.inl (carry_eq_error_iff.2 refused))
    | later first _ ih => exact carryAll_cons_eq_error.2 (.inr ⟨_, first, ih⟩)

theorem carryAll_append (front rest : List Effect) :
    books.carryAll account (front ++ rest) =
      books.carryAll account front >>= fun middle => middle.carryAll account rest :=
  List.foldlM_append

theorem FirstFailure.append (fails : FirstFailure account books effects effect fault)
    (rest : List Effect) : FirstFailure account books (effects ++ rest) effect fault := by
  induction fails with
  | here refused => exact .here refused
  | later first _ ih => exact .later first ih

theorem Carried.append_fails (carried : Carried account books effects after)
    (fails : FirstFailure account after rest effect fault) :
    FirstFailure account books (effects ++ rest) effect fault := by
  induction carried with
  | done => exact fails
  | next first _ ih => exact .later first (ih fails)

theorem exists_carry (unrefused : ∀ fault, ¬ effect.Refused account books fault) :
    ∃ after, books.carry account effect = .ok after := by
  cases carried : books.carry account effect with
  | ok after => exact ⟨after, rfl⟩
  | error fault => exact absurd (carry_eq_error_iff.1 carried) (unrefused fault)

/-! ## What is not refused -/

section Granted

variable {holder owner recipient : Holder} {asset : Asset} {info : AssetInfo}

theorem exists_carry_transfer (books : Books) (asset : Asset) (recipient : Holder)
    (enough : asset.amount ≤ books.balances.get account asset.info) :
    ∃ after, books.carry account (.transfer asset recipient) = .ok after := by
  apply exists_carry
  intro fault refused
  cases refused with
  | unpayable short => omega

theorem exists_carry_transferFrom (asset : Asset) (account : Holder)
    (enough : asset.amount ≤ books.balances.get owner asset.info) :
    ∃ after, books.carry account (.transferFrom asset owner) = .ok after := by
  apply exists_carry
  intro fault refused
  cases refused with
  | uncollectable short => omega

theorem exists_carry_mintShares (books : Books) (account recipient : Holder) {amount : Int}
    (positive : 0 ≤ amount) :
    ∃ after, books.carry account (.mintShares recipient amount) = .ok after := by
  apply exists_carry
  intro fault refused
  cases refused with
  | negativeMint negative => omega

theorem balance_transfer_of_ne
    (carried : books.carry account (.transfer asset recipient) = .ok after) (holder : Holder)
    (apart : info.id ≠ asset.info.id) :
    after.balances.get holder info = books.balances.get holder info := by
  have moved := balance_carry carried holder info
  rw [Effect.balanceChange, Balances.flow_of_ne _ _ _ _ apart] at moved
  omega

/-- Shares that are held can be burned, and what is paid for them from two reserves
    only has to be within these. -/
theorem exists_carryAll_payout {info0 info1 : AssetInfo} {amount0 amount1 : Nat} {burned : Int}
    (apart : info1.id ≠ info0.id) (positive : 0 ≤ burned) (held : burned ≤ books.shares.get holder)
    (within0 : amount0 ≤ books.balances.get account info0)
    (within1 : amount1 ≤ books.balances.get account info1) :
    ∃ after, books.carryAll account [.burnShares holder burned, .transfer ⟨info0, amount0⟩ holder,
      .transfer ⟨info1, amount1⟩ holder] = .ok after := by
  obtain ⟨shares, burn⟩ := Shares.burn_granted_iff.2 ⟨positive, held⟩
  have first : books.carry account (.burnShares holder burned) = .ok { books with shares } :=
    bind_eq_ok.2 ⟨shares, burn, rfl⟩
  obtain ⟨paid, second⟩ :=
    exists_carry_transfer { books with shares } ⟨info0, amount0⟩ holder within0
  have left := balance_transfer_of_ne second account apart
  obtain ⟨after, third⟩ := exists_carry_transfer paid ⟨info1, amount1⟩ holder (left ▸ within1)
  exact ⟨after, carryAll_cons_eq_ok.2 ⟨_, first, carryAll_cons_eq_ok.2 ⟨_, second,
    carryAll_singleton _ ▸ third⟩⟩⟩

end Granted

end Books

namespace Ledger

variable {ledger after : Ledger} {effects : List Effect} {fault : Fault}

theorem applyEffects_eq_ok_iff :
    ledger.applyEffects effects = .ok after ↔
      ∃ books, ledger.books.carryAll ledger.account effects = .ok books ∧
        { ledger with books } = after := by
  simp only [applyEffects, bind_eq_ok, pure_eq_ok]

theorem applyEffects_eq_error_iff :
    ledger.applyEffects effects = .error fault ↔
      ledger.books.carryAll ledger.account effects = .error fault :=
  bind_pure_eq_error

end Ledger

end VeiledPool
