import VeiledPool.Ledger.Table
import VeiledPool.Proofs.Ledger.Balances

/-! # What is done in place

A table in memory is changed in place, and a computation that faults leaves behind what
it has written. Still every operation of a table comes down to what it does to the
content of its own place: either it writes the new content there, or it has not written
anything. For a transfer this takes an argument, since it writes twice: once it has
taken from one holder there is nothing against giving to the other.
-/

namespace VeiledPool

namespace Heap

variable {σ : Type} {heap : Heap σ} {place other : Nat} {content : σ}

@[simp]
theorem cell_write_self (heap : Heap σ) (place : Nat) (content : σ) :
    (heap.write place content).cell place = content := by
  simp [write]

theorem cell_write_of_ne (apart : other ≠ place) :
    (heap.write place content).cell other = heap.cell other := by
  simp [write, apart]

@[simp]
theorem used_write : (heap.write place content).used = heap.used := rfl

@[simp]
theorem write_cell (heap : Heap σ) (place : Nat) : heap.write place (heap.cell place) = heap := by
  have same : (heap.write place (heap.cell place)).cell = heap.cell := by
    funext other
    by_cases here : other = place
    · subst here
      simp
    · rw [cell_write_of_ne here]
  exact congrArg (Heap.mk heap.used) same

@[simp]
theorem write_write (heap : Heap σ) (place : Nat) (first second : σ) :
    (heap.write place first).write place second = heap.write place second := by
  have same : ((heap.write place first).write place second).cell =
      (heap.write place second).cell := by
    funext other
    by_cases here : other = place
    · subst here
      simp
    · simp only [cell_write_of_ne here]
  exact congrArg (Heap.mk heap.used) same

@[simp]
theorem cell_push_used (heap : Heap σ) (content : σ) :
    (heap.push content).cell heap.used = content :=
  cell_write_self heap heap.used content

theorem cell_push_of_ne (apart : other ≠ heap.used) :
    (heap.push content).cell other = heap.cell other :=
  cell_write_of_ne apart

@[simp]
theorem used_push : (heap.push content).used = heap.used + 1 := rfl

end Heap

/-- What a program makes of memory, told by what an operation makes of the content of one
    place: it writes the new content there, or it faults without a trace. -/
def Performs {σ : Type} (program : Live σ Unit) (table : Ref σ) (operation : σ → Except Fault σ) :
    Prop :=
  ∀ memory : Heap σ, program.run memory =
    match operation (memory.cell table.place) with
    | .ok after => .ok () (memory.write table.place after)
    | .error fault => .error fault memory

section Programs

variable {σ : Type} {table : Ref σ} {operation : σ → Except Fault σ}

theorem performs_throw {fault : Fault} (refused : ∀ content, operation content = .error fault) :
    Performs (throw fault) table operation := by
  intro memory
  rw [EStateM.run_throw, refused]

theorem performs_pure (kept : ∀ content, operation content = .ok content) :
    Performs (pure ()) table operation := by
  intro memory
  rw [EStateM.run_pure, kept]
  simp

@[simp]
theorem Ref.run_read (table : Ref σ) (memory : Heap σ) :
    table.read.run memory = .ok (memory.cell table.place) memory := rfl

@[simp]
theorem Ref.run_write (table : Ref σ) (content : σ) (memory : Heap σ) :
    (table.write content).run memory = .ok () (memory.write table.place content) := rfl

@[simp]
theorem Ref.run_make (content : σ) (memory : Heap σ) :
    (make content).run memory = .ok ⟨memory.used⟩ (memory.push content) := rfl

@[simp]
theorem Ref.run_copy (table : Ref σ) (memory : Heap σ) :
    table.copy.run memory = .ok ⟨memory.used⟩ (memory.push (memory.cell table.place)) := rfl

end Programs

namespace BalanceTable

variable {table : BalanceTable} {holder sender recipient : Holder} {asset : AssetInfo}

@[simp]
theorem run_get (table : BalanceTable) (holder : Holder) (asset : AssetInfo)
    (memory : Heap Balances) :
    (table.get holder asset).run memory =
      .ok ((memory.cell table.place).get holder asset) memory := rfl

theorem performs_set (table : BalanceTable) (holder : Holder) (asset : AssetInfo) (amount : Int) :
    Performs (table.set holder asset amount) table (·.set holder asset amount) := by
  unfold set Balances.set
  split
  · exact performs_throw fun _ => rfl
  · intro memory
    simp

theorem performs_add (table : BalanceTable) (holder : Holder) (asset : AssetInfo) (delta : Int) :
    Performs (table.add holder asset delta) table (·.add holder asset delta) := by
  intro memory
  simp only [add, Balances.add, EStateM.run_bind, run_get]
  split
  · rw [EStateM.run_throw]
  · exact performs_set table holder asset _ memory

theorem performs_subtract (table : BalanceTable) (holder : Holder) (asset : AssetInfo)
    (delta : Int) :
    Performs (table.subtract holder asset delta) table (·.subtract holder asset delta) := by
  unfold subtract Balances.subtract
  split
  · exact performs_throw fun _ => rfl
  · exact performs_add table holder asset _

/-- Two writes, but never the first without the second. -/
theorem performs_transfer (table : BalanceTable) (sender recipient : Holder) (asset : AssetInfo)
    (amount : Int) :
    Performs (table.transfer sender recipient asset amount) table
      (·.transfer sender recipient asset amount) := by
  unfold transfer Balances.transfer
  split
  · exact performs_throw fun _ => rfl
  · rename_i positive
    intro memory
    rw [EStateM.run_bind, performs_subtract table sender asset amount memory]
    cases debit : (memory.cell table.place).subtract sender asset amount with
    | error fault => simp only [debit, error_bind]
    | ok debited =>
      obtain ⟨after, credit⟩ : ∃ after, debited.add recipient asset amount = .ok after :=
        ⟨_, Balances.add_eq_ok_iff.2 ⟨by omega, rfl⟩⟩
      have credited := performs_add table recipient asset amount
        (memory.write table.place debited)
      simp only [Heap.cell_write_self, credit, Heap.write_write] at credited
      simp only [debit, ok_bind, credited, credit]

end BalanceTable

namespace ShareTable

theorem performs_mint (table : ShareTable) (holder : Holder) (amount : Int) :
    Performs (table.mint holder amount) table (·.mint holder amount) := by
  unfold mint Shares.mint
  split
  · exact performs_throw fun _ => rfl
  · split
    · exact performs_pure fun _ => rfl
    · intro memory
      simp

theorem performs_burn (table : ShareTable) (holder : Holder) (amount : Int) :
    Performs (table.burn holder amount) table (·.burn holder amount) := by
  unfold burn Shares.burn
  split
  · exact performs_throw fun _ => rfl
  · intro memory
    simp only [EStateM.run_bind, Ref.run_read]
    split
    · rw [EStateM.run_throw]
    · rw [Ref.run_write]

end ShareTable

end VeiledPool
