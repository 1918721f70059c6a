import VeiledPool.Proofs.Ledger.Conservation
import VeiledPool.Proofs.Ledger.Shelf
import VeiledPool.Proofs.Ledger.Total

/-! # Tables stand for total functions

A table stores positive numbers only, but it stands for a function that gives every
key a number. A call means a change of that function at one key or two, or it is
barred and means nothing. Whatever is done to tables and their copies, in whatever
order and however often it is refused, each of them shows the function that these
changes lead to. The tables are those in memory, so a call that is refused could leave
half of its work behind, and a copy could share what is done to it.
-/

namespace VeiledPool

theorem Tally.get_set {κ : Type} [DecidableEq κ] (tally : Tally κ) (key : κ) (value : Nat) :
    (tally.set key value).get = Function.update tally.get key value := by
  funext other
  by_cases here : other = key
  · subst here
    rw [get_set_self, Function.update_self]
  · rw [get_set_of_ne _ here, Function.update_of_ne here]

/-! ## Balances -/

namespace Balances

abbrev Holdings := Holder × AssetId → Nat

/-- What a transfer makes of the numbers: one loses what another gains. -/
def moved (holdings : Holdings) (source target : Holder × AssetId) (amount : Nat) : Holdings :=
  fun key => holdings key - (if key = source then amount else 0) +
    (if key = target then amount else 0)

/-- Taking first and giving then, the second from what the first has left. -/
theorem update_update_eq_moved (holdings : Holdings) {source : Holder × AssetId}
    (target : Holder × AssetId) {amount : Nat} (enough : amount ≤ holdings source) :
    Function.update (Function.update holdings source (holdings source - amount)) target
        (Function.update holdings source (holdings source - amount) target + amount) =
      moved holdings source target amount := by
  funext key
  by_cases given : key = target
  · subst given
    by_cases same : key = source
    · subst same
      simp [moved]
    · simp [moved, same]
  · by_cases taken : key = source
    · subst taken
      simp [moved, given]
    · simp [moved, given, taken]

/-- What a table of balances can be asked to change. -/
inductive Call where
  | set (holder : Holder) (asset : AssetInfo) (amount : Int)
  | add (holder : Holder) (asset : AssetInfo) (delta : Int)
  | subtract (holder : Holder) (asset : AssetInfo) (delta : Int)
  | transfer (sender recipient : Holder) (asset : AssetInfo) (amount : Int)

namespace Call

def perform (table : BalanceTable) : Call → Live Balances Unit
  | set holder asset amount => table.set holder asset amount
  | add holder asset delta => table.add holder asset delta
  | subtract holder asset delta => table.subtract holder asset delta
  | transfer sender recipient asset amount => table.transfer sender recipient asset amount

def run (balances : Balances) : Call → Except Fault Balances
  | set holder asset amount => balances.set holder asset amount
  | add holder asset delta => balances.add holder asset delta
  | subtract holder asset delta => balances.subtract holder asset delta
  | transfer sender recipient asset amount => balances.transfer sender recipient asset amount

theorem performs (table : BalanceTable) (call : Call) :
    Performs (call.perform table) table call.run := by
  cases call with
  | set holder asset amount => exact table.performs_set holder asset amount
  | add holder asset delta => exact table.performs_add holder asset delta
  | subtract holder asset delta => exact table.performs_subtract holder asset delta
  | transfer sender recipient asset amount =>
    exact table.performs_transfer sender recipient asset amount

/-- An amount is negative that must not be, or a balance would be. -/
def Barred (holdings : Holdings) : Call → Prop
  | set _ _ amount => amount < 0
  | add holder asset delta => holdings (holder, asset.id) + delta < 0
  | subtract holder asset delta => delta < 0 ∨ holdings (holder, asset.id) < delta
  | transfer sender _ asset amount => amount < 0 ∨ holdings (sender, asset.id) < amount

instance (holdings : Holdings) : (call : Call) → Decidable (call.Barred holdings)
  | set .. | add .. => inferInstanceAs (Decidable (_ < _))
  | subtract .. | transfer .. => inferInstanceAs (Decidable (_ ∨ _))

/-- What a call that is not barred does to the numbers. -/
def change (holdings : Holdings) : Call → Holdings
  | set holder asset amount => Function.update holdings (holder, asset.id) amount.toNat
  | add holder asset delta =>
    Function.update holdings (holder, asset.id) (holdings (holder, asset.id) + delta).toNat
  | subtract holder asset delta =>
    Function.update holdings (holder, asset.id) (holdings (holder, asset.id) - delta.toNat)
  | transfer sender recipient asset amount =>
    moved holdings (sender, asset.id) (recipient, asset.id) amount.toNat

def meant : Holdings → Call → Holdings := Shelf.unlessBarred Barred change

end Call

def holdings (balances : Balances) : Holdings := balances.table.get

variable {balances : Balances} {holder sender recipient : Holder} {asset : AssetInfo}
  {amount delta : Int}

theorem set_of_negative (negative : amount < 0) :
    ∃ cause, balances.set holder asset amount = .error (.badValue cause) :=
  ⟨.negativeBalance amount, by rw [Balances.set, if_pos negative]⟩

theorem set_of_nonneg (positive : 0 ≤ amount) :
    ∃ after, balances.set holder asset amount = .ok after ∧
      after.holdings = Function.update balances.holdings (holder, asset.id) amount.toNat :=
  ⟨⟨balances.table.set (holder, asset.id) amount.toNat⟩,
    by rw [Balances.set, if_neg (Int.not_lt.2 positive)], Tally.get_set ..⟩

theorem add_of_short (short : (balances.get holder asset : Int) + delta < 0) :
    ∃ cause, balances.add holder asset delta = .error (.badValue cause) :=
  ⟨_, add_eq_error_iff.2 ⟨short, rfl⟩⟩

theorem add_of_enough (enough : 0 ≤ (balances.get holder asset : Int) + delta) :
    ∃ after, balances.add holder asset delta = .ok after ∧
      after.holdings = Function.update balances.holdings (holder, asset.id)
        ((balances.get holder asset : Int) + delta).toNat :=
  ⟨_, add_eq_ok_iff.2 ⟨enough, rfl⟩, Tally.get_set ..⟩

theorem subtract_of_short (short : delta < 0 ∨ (balances.get holder asset : Int) < delta) :
    ∃ cause, balances.subtract holder asset delta = .error (.badValue cause) := by
  by_cases negative : delta < 0
  · exact ⟨.negative "Delta" delta, by rw [subtract, if_pos negative]⟩
  · rw [subtract, if_neg negative]
    exact add_of_short (by omega)

theorem subtract_of_enough (positive : 0 ≤ delta) (enough : delta ≤ balances.get holder asset) :
    ∃ after, balances.subtract holder asset delta = .ok after ∧
      after.holdings = Function.update balances.holdings (holder, asset.id)
        (balances.get holder asset - delta.toNat) := by
  have left : 0 ≤ (balances.get holder asset : Int) + -delta := by omega
  obtain ⟨after, granted, shown⟩ := add_of_enough left
  refine ⟨after, by rw [subtract, if_neg (Int.not_lt.2 positive), granted], ?_⟩
  rw [shown]
  congr 1
  omega

theorem add_of_nonneg (balances : Balances) (holder : Holder) (asset : AssetInfo)
    (positive : 0 ≤ amount) :
    ∃ after, balances.add holder asset amount = .ok after ∧
      after.holdings = Function.update balances.holdings (holder, asset.id)
        (balances.holdings (holder, asset.id) + amount.toNat) := by
  have enough : 0 ≤ (balances.get holder asset : Int) + amount := by omega
  obtain ⟨after, granted, shown⟩ := add_of_enough enough
  refine ⟨after, granted, ?_⟩
  rw [shown, Int.toNat_add (Int.natCast_nonneg _) positive, Int.toNat_natCast]
  rfl

theorem transfer_of_nonneg (positive : 0 ≤ amount) :
    balances.transfer sender recipient asset amount =
      (balances.subtract sender asset amount >>= fun debited =>
        debited.add recipient asset amount) := by
  rw [transfer, if_neg (Int.not_lt.2 positive)]

theorem transfer_of_short (short : amount < 0 ∨ (balances.get sender asset : Int) < amount) :
    ∃ cause, balances.transfer sender recipient asset amount = .error (.badValue cause) := by
  by_cases negative : amount < 0
  · exact ⟨.negative "Transfer amount" amount, by rw [transfer, if_pos negative]⟩
  · obtain ⟨cause, refused⟩ := subtract_of_short short
    exact ⟨cause, by rw [transfer_of_nonneg (Int.not_lt.1 negative), refused, error_bind]⟩

/-- The credit finds what the debit has left, also where both are the same balance. -/
theorem transfer_of_enough (positive : 0 ≤ amount) (enough : amount ≤ balances.get sender asset) :
    ∃ after, balances.transfer sender recipient asset amount = .ok after ∧
      after.holdings =
        moved balances.holdings (sender, asset.id) (recipient, asset.id) amount.toNat := by
  obtain ⟨debited, debit, left⟩ := subtract_of_enough positive enough
  obtain ⟨after, credit, shown⟩ := debited.add_of_nonneg recipient asset positive
  refine ⟨after, by rw [transfer_of_nonneg positive, debit, ok_bind, credit], ?_⟩
  have held : amount.toNat ≤ balances.holdings (sender, asset.id) := Int.toNat_le.2 enough
  rw [shown, left]
  exact update_update_eq_moved _ _ held

/-- What bars a call and what it changes otherwise can be told from the numbers alone. -/
theorem calls_explained : Shelf.Explains Call.Barred Call.change holdings Call.run where
  refused {balances call} barred := by
    cases call with
    | set holder asset amount => exact set_of_negative barred
    | add holder asset delta => exact add_of_short barred
    | subtract holder asset delta => exact subtract_of_short barred
    | transfer sender recipient asset amount => exact transfer_of_short barred
  granted {balances call} unbarred := by
    cases call with
    | set holder asset amount => exact set_of_nonneg (Int.not_lt.1 unbarred)
    | add holder asset delta => exact add_of_enough (Int.not_lt.1 unbarred)
    | subtract holder asset delta =>
      obtain ⟨positive, enough⟩ := not_or.1 unbarred
      exact subtract_of_enough (Int.not_lt.1 positive) (Int.not_lt.1 enough)
    | transfer sender recipient asset amount =>
      obtain ⟨positive, enough⟩ := not_or.1 unbarred
      exact transfer_of_enough (Int.not_lt.1 positive) (Int.not_lt.1 enough)

theorem positive_call (balances : Balances) (call : Call) (after : Balances)
    (granted : call.run balances = .ok after) (positive : balances.table.Positive) :
    after.table.Positive := by
  cases call with
  | set holder asset amount =>
    rw [Call.run, Balances.set] at granted
    split at granted
    · cases granted
    · cases granted
      exact Tally.positive_set positive _ _
  | add holder asset delta => exact positive_add granted positive
  | subtract holder asset delta =>
    rw [Call.run, subtract] at granted
    split at granted
    · cases granted
    · exact positive_add granted positive
  | transfer sender recipient asset amount => exact positive_transfer granted positive

/-- What the table of balances at a place in memory shows and how it answers, going by the
    numbers that it stands for. -/
structure StandsFor (memory : Heap Balances) (place : Nat) (holdings : Holdings) : Prop where
  get : ∀ (holder : Holder) (asset : AssetInfo),
    (BalanceTable.get ⟨place⟩ holder asset).run memory =
      .ok (holdings (holder, asset.id)) memory
  total : ∀ asset : AssetInfo,
    (memory.cell place).total asset = ∑ᶠ holder, holdings (holder, asset.id)
  /-- The sum has finitely many terms. -/
  finite : ∀ asset : AssetInfo, (Function.support fun holder => holdings (holder, asset.id)).Finite
  stored : ∀ row ∈ (memory.cell place).table.rows, 0 < row.2
  /-- A refused transfer has not written its first change either. -/
  answers : Shelf.Answers (Call.perform ⟨place⟩) memory (Call.Barred holdings)

theorem standsFor_holdings {memory : Heap Balances} {place : Nat}
    (positive : (memory.cell place).table.Positive) :
    StandsFor memory place (memory.cell place).holdings where
  get _ _ := rfl
  total := (memory.cell place).total_eq_finsum
  finite := (memory.cell place).finite_holders
  stored := positive
  answers := calls_explained.answers Call.performs memory place

theorem standsFor_run (errands : List (Errand Call)) (place : Nat) :
    StandsFor (Shelf.run empty Call.perform (.blank empty) errands) place
      ((Shelf.follow (fun _ => 0) Call.meant (.blank fun _ => 0) errands).cell place) := by
  have fresh : empty.table.Positive := Tally.positive_empty
  have unused : ∀ place, ((Heap.blank empty).cell place).table.Positive := fun _ => fresh
  have positive := Shelf.run_preserves Call.performs fresh positive_call unused errands place
  have shown := calls_explained.view_run Call.performs empty errands place
  exact shown ▸ standsFor_holdings positive

end Balances

/-! ## Shares -/

namespace Shares

/-- What a table of shares can be asked to change. -/
inductive Call where
  | mint (holder : Holder) (amount : Int)
  | burn (holder : Holder) (amount : Int)

namespace Call

def perform (table : ShareTable) : Call → Live Shares Unit
  | mint holder amount => table.mint holder amount
  | burn holder amount => table.burn holder amount

def run (shares : Shares) : Call → Except Fault Shares
  | mint holder amount => shares.mint holder amount
  | burn holder amount => shares.burn holder amount

theorem performs (table : ShareTable) (call : Call) :
    Performs (call.perform table) table call.run := by
  cases call with
  | mint holder amount => exact table.performs_mint holder amount
  | burn holder amount => exact table.performs_burn holder amount

/-- An amount is negative, or more than there is to burn. -/
def Barred (holdings : Holder → Nat) : Call → Prop
  | mint _ amount => amount < 0
  | burn holder amount => amount < 0 ∨ holdings holder < amount

instance (holdings : Holder → Nat) : (call : Call) → Decidable (call.Barred holdings)
  | mint .. => inferInstanceAs (Decidable (_ < _))
  | burn .. => inferInstanceAs (Decidable (_ ∨ _))

/-- What a call that is not barred does to the numbers. -/
def change (holdings : Holder → Nat) : Call → Holder → Nat
  | mint holder amount => Function.update holdings holder (holdings holder + amount.toNat)
  | burn holder amount => Function.update holdings holder (holdings holder - amount.toNat)

def meant : (Holder → Nat) → Call → Holder → Nat := Shelf.unlessBarred Barred change

end Call

variable {shares : Shares} {holder : Holder} {amount : Int}

theorem mint_of_nonneg (positive : 0 ≤ amount) :
    ∃ after, shares.mint holder amount = .ok after ∧
      after.get = Function.update shares.get holder (shares.get holder + amount.toNat) := by
  obtain ⟨after, minted⟩ := mint_granted_iff.2 positive
  refine ⟨after, minted, funext fun other => ?_⟩
  have held := get_mint minted other
  by_cases here : other = holder
  · subst here
    simp only [Function.update_self, if_true] at held ⊢
    omega
  · simp only [Function.update_of_ne here, here, if_false] at held ⊢
    omega

theorem burn_of_enough (positive : 0 ≤ amount) (enough : amount ≤ shares.get holder) :
    ∃ after, shares.burn holder amount = .ok after ∧
      after.get = Function.update shares.get holder (shares.get holder - amount.toNat) := by
  obtain ⟨after, burned⟩ := burn_granted_iff.2 ⟨positive, enough⟩
  obtain ⟨held, rfl⟩ := burn_eq_ok burned
  exact ⟨_, burned, Tally.get_set ..⟩

theorem calls_explained : Shelf.Explains Call.Barred Call.change get Call.run where
  refused {shares call} barred := by
    cases call with
    | mint holder amount => exact ⟨_, mint_eq_error_iff.2 ⟨barred, rfl⟩⟩
    | burn holder amount =>
      rcases barred with negative | short
      · exact ⟨_, burn_eq_error_iff.2 (.inl ⟨negative, rfl⟩)⟩
      · exact ⟨_, burn_eq_error_iff.2 (.inr ⟨short, rfl⟩)⟩
  granted {shares call} unbarred := by
    cases call with
    | mint holder amount => exact mint_of_nonneg (Int.not_lt.1 unbarred)
    | burn holder amount =>
      obtain ⟨positive, enough⟩ := not_or.1 unbarred
      exact burn_of_enough (Int.not_lt.1 positive) (Int.not_lt.1 enough)

theorem positive_call (shares : Shares) (call : Call) (after : Shares)
    (granted : call.run shares = .ok after) (positive : shares.table.Positive) :
    after.table.Positive := by
  cases call with
  | mint holder amount => exact positive_mint granted positive
  | burn holder amount => exact positive_burn granted positive

/-- What the table of shares at a place in memory shows and how it answers, going by the numbers
    that it stands for. -/
structure StandsFor (memory : Heap Shares) (place : Nat) (holdings : Holder → Nat) : Prop where
  get : ∀ holder, (memory.cell place).get holder = holdings holder
  supply : (memory.cell place).supply = ∑ᶠ holder, holdings holder
  /-- The sum has finitely many terms. -/
  finite : (Function.support holdings).Finite
  stored : ∀ row ∈ (memory.cell place).table.rows, 0 < row.2
  answers : Shelf.Answers (Call.perform ⟨place⟩) memory (Call.Barred holdings)

theorem standsFor_get {memory : Heap Shares} {place : Nat}
    (positive : (memory.cell place).table.Positive) :
    StandsFor memory place (memory.cell place).get where
  get _ := rfl
  supply := (memory.cell place).supply_eq_finsum
  finite := (memory.cell place).table.finite_support_get
  stored := positive
  answers := calls_explained.answers Call.performs memory place

theorem standsFor_run (errands : List (Errand Call)) (place : Nat) :
    StandsFor (Shelf.run empty Call.perform (.blank empty) errands) place
      ((Shelf.follow (fun _ => 0) Call.meant (.blank fun _ => 0) errands).cell place) := by
  have fresh : empty.table.Positive := Tally.positive_empty
  have unused : ∀ place, ((Heap.blank empty).cell place).table.Positive := fun _ => fresh
  have positive := Shelf.run_preserves Call.performs fresh positive_call unused errands place
  have shown := calls_explained.view_run Call.performs empty errands place
  exact shown ▸ standsFor_get positive

end Shares

namespace Shelf

/-- Whatever tables are asked for and however often they are copied, each of them stands
    for the numbers that the calls to it and to what it was copied from mean: it shows
    them, stores none of them that is zero, adds them up to its total, refuses what they
    bar and leaves memory as it was, and grants all else. What is done to a copy is not
    seen in its original, nor the other way round. -/
theorem tables_stand_for_numbers :
    (∀ (errands : List (Errand Balances.Call)) (place : Nat),
      Balances.StandsFor (run .empty Balances.Call.perform (.blank .empty) errands) place
        ((follow (fun _ => 0) Balances.Call.meant (.blank fun _ => 0) errands).cell place)) ∧
    (∀ (errands : List (Errand Shares.Call)) (place : Nat),
      Shares.StandsFor (run .empty Shares.Call.perform (.blank .empty) errands) place
        ((follow (fun _ => 0) Shares.Call.meant (.blank fun _ => 0) errands).cell place)) ∧
    KeepsCopiesApart .empty Balances.Call.perform ∧ KeepsCopiesApart .empty Shares.Call.perform :=
  ⟨Balances.standsFor_run, Shares.standsFor_run, keepsCopiesApart Balances.Call.performs,
    keepsCopiesApart Shares.Call.performs⟩

def sampleCoin : AssetInfo :=
  ⟨⟨.native, "penny"⟩, .text "", by decide⟩

/-- A transfer and a copy; then, on the copy, a transfer to oneself of more than there is
    and a withdrawal of all there is, and on the original more is taken than there is. -/
def sampleErrands : List (Errand Balances.Call) :=
  [.new, .call 0 (.set "alice" sampleCoin 10),
    .call 0 (.transfer "alice" "bob" sampleCoin 4),
    .copy 0,
    .call 1 (.transfer "alice" "alice" sampleCoin 7),
    .call 1 (.subtract "alice" sampleCoin 6),
    .call 0 (.add "bob" sampleCoin (-5))]

theorem tables_stand_for_numbers_sample :
    let memory := run .empty Balances.Call.perform (.blank .empty) sampleErrands
    (BalanceTable.get ⟨0⟩ "alice" sampleCoin).run memory = .ok 6 memory ∧
      (BalanceTable.get ⟨1⟩ "alice" sampleCoin).run memory = .ok 0 memory ∧
      (Balances.Call.transfer "bob" "bob" sampleCoin 5).Barred
        ((follow (fun _ => 0) Balances.Call.meant (.blank fun _ => 0) sampleErrands).cell 1) ∧
      ∃ cause, (BalanceTable.transfer ⟨1⟩ "bob" "bob" sampleCoin 5).run memory =
        .error (.badValue cause) memory := by
  intro memory
  have left : (follow (fun _ => 0) Balances.Call.meant (.blank fun _ => 0) sampleErrands).cell 0
      ("alice", sampleCoin.id) = 6 := by
    decide +kernel
  have spent : (follow (fun _ => 0) Balances.Call.meant (.blank fun _ => 0) sampleErrands).cell 1
      ("alice", sampleCoin.id) = 0 := by
    decide +kernel
  have short : (Balances.Call.transfer "bob" "bob" sampleCoin 5).Barred
      ((follow (fun _ => 0) Balances.Call.meant (.blank fun _ => 0) sampleErrands).cell 1) := by
    decide +kernel
  obtain ⟨balances, -, -, -⟩ := tables_stand_for_numbers
  have main := balances sampleErrands 0
  have spare := balances sampleErrands 1
  refine ⟨?_, ?_, short, spare.answers.refused _ short⟩
  · rw [← left]
    exact main.get "alice" sampleCoin
  · rw [← spent]
    exact spare.get "alice" sampleCoin

end Shelf

end VeiledPool
