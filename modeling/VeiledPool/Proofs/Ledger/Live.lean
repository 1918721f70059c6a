import VeiledPool.Ledger.Live
import VeiledPool.Proofs.Ledger.Execution
import VeiledPool.Proofs.Ledger.Table

/-! # A ledger at work

Effects are carried out in place, on copies of the ledger's tables. When all of them are
carried out the copies have become the ledger's own, and it holds what carrying them out
one after the other leads to. When one is refused the copies are left half done. The
ledger's own tables are in other places, so it holds what it held.
-/

namespace VeiledPool

namespace LedgerMemory

def booksAt (memory : LedgerMemory) (balances : BalanceTable) (shares : ShareTable) : Books :=
  ⟨memory.balances.cell balances.place, memory.shares.cell shares.place⟩

def writeAt (memory : LedgerMemory) (balances : BalanceTable) (shares : ShareTable)
    (books : Books) : LedgerMemory :=
  { memory with
    balances := memory.balances.write balances.place books.balances
    shares := memory.shares.write shares.place books.shares }

/-- The ledger's own tables are among those in memory. -/
structure Owned (memory : LedgerMemory) : Prop where
  balances : memory.ownBalances.place < memory.balances.used
  shares : memory.ownShares.place < memory.shares.used

variable {memory : LedgerMemory} {balances : BalanceTable} {shares : ShareTable}
  {books first second : Books}

theorem owned_holding (books : Books) : (holding books).Owned :=
  ⟨Nat.zero_lt_one, Nat.zero_lt_one⟩

@[simp]
theorem books_holding (books : Books) : (holding books).books = books := rfl

@[simp]
theorem booksAt_writeAt : (memory.writeAt balances shares books).booksAt balances shares = books := by
  simp [booksAt, writeAt]

@[simp]
theorem writeAt_booksAt :
    memory.writeAt balances shares (memory.booksAt balances shares) = memory := by
  simp [booksAt, writeAt]

@[simp]
theorem writeAt_writeAt : (memory.writeAt balances shares first).writeAt balances shares second =
    memory.writeAt balances shares second := by
  simp [writeAt]

/-- Writing elsewhere does not change what the ledger holds. -/
theorem books_writeAt_of_ne (apart : memory.ownBalances.place ≠ balances.place)
    (apartShares : memory.ownShares.place ≠ shares.place) :
    (memory.writeAt balances shares books).books = memory.books := by
  simp only [LedgerMemory.books, writeAt, Heap.cell_write_of_ne apart,
    Heap.cell_write_of_ne apartShares]

def withCopies (memory : LedgerMemory) : LedgerMemory :=
  { memory with
    balances := memory.balances.push (memory.balances.cell memory.ownBalances.place)
    shares := memory.shares.push (memory.shares.cell memory.ownShares.place) }

theorem booksAt_withCopies (memory : LedgerMemory) :
    memory.withCopies.booksAt ⟨memory.balances.used⟩ ⟨memory.shares.used⟩ = memory.books := by
  simp [booksAt, withCopies, LedgerMemory.books]

theorem books_withCopies (owned : memory.Owned) : memory.withCopies.books = memory.books := by
  simp only [LedgerMemory.books, withCopies, Heap.cell_push_of_ne owned.balances.ne,
    Heap.cell_push_of_ne owned.shares.ne]

end LedgerMemory

namespace LiveLedger

variable {memory : LedgerMemory} {balances : BalanceTable} {shares : ShareTable}
  {account : Holder} {effects : List Effect} {after : Books} {fault : Fault}

theorem run_onBalances {program : Live Balances Unit} {operation : Balances → Except Fault Balances}
    (performs : Performs program balances operation) (memory : LedgerMemory) :
    (onBalances program).run memory =
      match operation (memory.balances.cell balances.place) with
      | .ok after => .ok () { memory with balances := memory.balances.write balances.place after }
      | .error fault => .error fault memory := by
  have ran := performs memory.balances
  simp only [EStateM.run] at ran
  simp only [EStateM.run, onBalances, ran]
  cases operation (memory.balances.cell balances.place) <;> rfl

theorem run_onShares {program : Live Shares Unit} {operation : Shares → Except Fault Shares}
    (performs : Performs program shares operation) (memory : LedgerMemory) :
    (onShares program).run memory =
      match operation (memory.shares.cell shares.place) with
      | .ok after => .ok () { memory with shares := memory.shares.write shares.place after }
      | .error fault => .error fault memory := by
  have ran := performs memory.shares
  simp only [EStateM.run] at ran
  simp only [EStateM.run, onShares, ran]
  cases operation (memory.shares.cell shares.place) <;> rfl

/-- One effect is carried out or leaves no trace. -/
theorem run_carry (account : Holder) (balances : BalanceTable) (shares : ShareTable)
    (effect : Effect) (memory : LedgerMemory) :
    (carry account balances shares effect).run memory =
      match (memory.booksAt balances shares).carry account effect with
      | .ok after => .ok () (memory.writeAt balances shares after)
      | .error fault => .error fault memory := by
  cases effect with
  | transfer asset recipient =>
    rw [carry, run_onBalances
      (BalanceTable.performs_transfer balances account recipient asset.info asset.amount)]
    simp only [Books.carry, LedgerMemory.booksAt]
    cases Balances.transfer _ _ _ _ _ <;> simp [LedgerMemory.writeAt, pure, Except.pure]
  | transferFrom asset owner =>
    rw [carry, run_onBalances
      (BalanceTable.performs_transfer balances owner account asset.info asset.amount)]
    simp only [Books.carry, LedgerMemory.booksAt]
    cases Balances.transfer _ _ _ _ _ <;> simp [LedgerMemory.writeAt, pure, Except.pure]
  | mintShares recipient amount =>
    rw [carry, run_onShares (ShareTable.performs_mint shares recipient amount)]
    simp only [Books.carry, LedgerMemory.booksAt]
    cases Shares.mint _ _ _ <;> simp [LedgerMemory.writeAt, pure, Except.pure]
  | burnShares owner amount =>
    rw [carry, run_onShares (ShareTable.performs_burn shares owner amount)]
    simp only [Books.carry, LedgerMemory.booksAt]
    cases Shares.burn _ _ _ <;> simp [LedgerMemory.writeAt, pure, Except.pure]
  | unknown name => rfl

theorem run_carryAll_of_ok
    (carried : (memory.booksAt balances shares).carryAll account effects = .ok after) :
    (carryAll account balances shares effects).run memory =
      .ok () (memory.writeAt balances shares after) := by
  induction effects generalizing memory with
  | nil =>
    cases Books.carryAll_nil_eq_ok.1 carried
    simp [carryAll]
  | cons effect rest ih =>
    obtain ⟨middle, first, others⟩ := Books.carryAll_cons_eq_ok.1 carried
    have kept : (memory.writeAt balances shares middle).booksAt balances shares = middle :=
      LedgerMemory.booksAt_writeAt
    rw [← kept] at others
    simp only [carryAll, EStateM.run_bind, run_carry, first, ih others,
      LedgerMemory.writeAt_writeAt]

/-- What the effects before the refused one have done stays in the tables. -/
theorem run_carryAll_of_error
    (failed : (memory.booksAt balances shares).carryAll account effects = .error fault) :
    ∃ reached, (carryAll account balances shares effects).run memory =
      .error fault (memory.writeAt balances shares reached) := by
  induction effects generalizing memory with
  | nil => cases failed
  | cons effect rest ih =>
    rcases Books.carryAll_cons_eq_error.1 failed with refused | ⟨middle, first, others⟩
    · refine ⟨memory.booksAt balances shares, ?_⟩
      simp only [carryAll, EStateM.run_bind, run_carry, refused, LedgerMemory.writeAt_booksAt]
    · have kept : (memory.writeAt balances shares middle).booksAt balances shares = middle :=
        LedgerMemory.booksAt_writeAt
      rw [← kept] at others
      obtain ⟨reached, onward⟩ := ih others
      refine ⟨reached, ?_⟩
      simp only [carryAll, EStateM.run_bind, run_carry, first, onward, LedgerMemory.writeAt_writeAt]

/-- The effects are carried out on the copies, and then these are taken over. -/
theorem run_applyEffects (account : Holder) (effects : List Effect) (memory : LedgerMemory) :
    (applyEffects account effects).run memory =
      match (carryAll account ⟨memory.balances.used⟩ ⟨memory.shares.used⟩ effects).run
          memory.withCopies with
      | .ok () final => .ok ()
          { final with ownBalances := ⟨memory.balances.used⟩, ownShares := ⟨memory.shares.used⟩ }
      | .error fault final => .error fault final := by
  let balances : BalanceTable := ⟨memory.balances.used⟩
  let shares : ShareTable := ⟨memory.shares.used⟩
  have copied : (applyEffects account effects).run memory =
      (do
        carryAll account balances shares effects
        modify fun final => { final with ownBalances := balances }
        modify fun final => { final with ownShares := shares } : LiveLedger Unit).run
          memory.withCopies := rfl
  rw [copied]
  simp only [EStateM.run_bind, EStateM.run_modify]
  cases (carryAll account balances shares effects).run memory.withCopies <;> rfl

theorem run_applyEffects_of_ok (carried : memory.books.carryAll account effects = .ok after) :
    ∃ final, (applyEffects account effects).run memory = .ok () final ∧ final.books = after := by
  rw [← memory.booksAt_withCopies] at carried
  rw [run_applyEffects, run_carryAll_of_ok carried]
  exact ⟨_, rfl, LedgerMemory.booksAt_writeAt⟩

theorem run_applyEffects_of_error (owned : memory.Owned)
    (failed : memory.books.carryAll account effects = .error fault) :
    ∃ final, (applyEffects account effects).run memory = .error fault final ∧
      final.books = memory.books := by
  rw [← memory.booksAt_withCopies] at failed
  obtain ⟨reached, stopped⟩ := run_carryAll_of_error failed
  rw [run_applyEffects, stopped]
  refine ⟨_, rfl, ?_⟩
  rw [LedgerMemory.books_writeAt_of_ne owned.balances.ne owned.shares.ne,
    LedgerMemory.books_withCopies owned]

end LiveLedger

namespace Ledger

variable {ledger : Ledger}

/-- What is left of a ledger by a change that may be refused. -/
def left (ledger : Ledger) : Except Fault Ledger → Except Fault Unit × Ledger
  | .ok after => (.ok (), after)
  | .error fault => (.error fault, ledger)

theorem operate_onBalances {program : BalanceTable → Live Balances Unit}
    {operation : Balances → Except Fault Balances}
    (performs : ∀ table, Performs (program table) table operation) (ledger : Ledger) :
    ledger.operate (do
      let memory ← get
      LiveLedger.onBalances (program memory.ownBalances)) =
    ledger.left (do
      let balances ← operation ledger.books.balances
      pure { ledger with books := { ledger.books with balances } }) := by
  have held : (LedgerMemory.holding ledger.books).balances.cell
      (LedgerMemory.holding ledger.books).ownBalances.place = ledger.books.balances := rfl
  simp only [operate, EStateM.run_bind, EStateM.run_get, LiveLedger.run_onBalances (performs _),
    held]
  cases operation ledger.books.balances <;> rfl

theorem operate_mint (ledger : Ledger) (holder : Holder) (asset : Asset) :
    ledger.operate (LiveLedger.mint holder asset) = ledger.left (ledger.mint holder asset) :=
  operate_onBalances (fun table => table.performs_add holder asset.info asset.amount) ledger

theorem operate_receive (ledger : Ledger) (sender : Holder) (asset : Asset) :
    ledger.operate (LiveLedger.receive ledger.account sender asset) =
      ledger.left (ledger.receive sender asset) :=
  operate_onBalances
    (fun table => table.performs_transfer sender ledger.account asset.info asset.amount) ledger

theorem operate_applyEffects (ledger : Ledger) (effects : List Effect) :
    ledger.operate (LiveLedger.applyEffects ledger.account effects) =
      ledger.left (ledger.applyEffects effects) := by
  cases carried : ledger.books.carryAll ledger.account effects with
  | ok after =>
    rw [← LedgerMemory.books_holding ledger.books] at carried
    obtain ⟨final, ran, held⟩ := LiveLedger.run_applyEffects_of_ok carried
    rw [LedgerMemory.books_holding] at carried
    rw [operate, ran, applyEffects_eq_ok_iff.2 ⟨after, carried, rfl⟩]
    simp only [left, held]
  | error fault =>
    obtain ⟨final, ran, held⟩ := LiveLedger.run_applyEffects_of_error
      (LedgerMemory.owned_holding ledger.books) carried
    rw [operate, ran, applyEffects_eq_error_iff.2 carried]
    simp only [left, held, LedgerMemory.books_holding]

end Ledger

end VeiledPool
