import VeiledPool.Proofs.Ledger.Table

/-! # Tables side by side

Tables are made empty or as copies of others, and are worked on in turn, in place and
whatever becomes of a call. What they stand for can be kept side by side as well, where
a copy is a value and a call a change of one of them. If calls are explained one by one,
by what bars them and what the others change, then so is every run.
-/

namespace VeiledPool

/-- Something to be done in memory: a new table, a copy of the table at a place, or a call to
    that table. -/
inductive Errand (κ : Type) where
  | new
  | copy (source : Nat)
  | call (place : Nat) (request : κ)

namespace Heap

def blank {σ : Type} (content : σ) : Heap σ := ⟨0, fun _ => content⟩

def map {σ τ : Type} (view : σ → τ) (memory : Heap σ) : Heap τ :=
  ⟨memory.used, fun place => view (memory.cell place)⟩

variable {σ τ : Type} (view : σ → τ)

theorem map_write (memory : Heap σ) (place : Nat) (content : σ) :
    (memory.write place content).map view = (memory.map view).write place (view content) := by
  simp only [map, write, Heap.mk.injEq, true_and]
  funext other
  exact apply_ite view _ _ _

theorem map_push (memory : Heap σ) (content : σ) :
    (memory.push content).map view = (memory.map view).push (view content) := by
  have written := map_write view memory memory.used content
  exact congrArg (fun after : Heap τ => { after with used := memory.used + 1 }) written

end Heap

namespace Errand

variable {σ τ κ : Type}

/-- The program of an errand, for tables that start with some content. -/
def program (start : σ) (perform : Ref σ → κ → Live σ Unit) : Errand κ → Live σ Unit
  | new => do
    let _ ← Ref.make start
  | copy source => do
    let _ ← (⟨source⟩ : Ref σ).copy
  | call place request => perform ⟨place⟩ request

/-- What an errand means where tables are values. -/
def meaning (start : τ) (meant : τ → κ → τ) (memory : Heap τ) : Errand κ → Heap τ
  | new => memory.push start
  | copy source => memory.push (memory.cell source)
  | call place request => memory.write place (meant (memory.cell place) request)

/-- The errand is a call to the table at a place. -/
def Addresses (place : Nat) : Errand κ → Prop
  | call other _ => other = place
  | new | copy _ => False

end Errand

namespace Shelf

variable {σ τ κ : Type}

/-- What a program leaves in memory, whether it ended or faulted. -/
def left (program : Live σ Unit) (memory : Heap σ) : Heap σ :=
  match program.run memory with
  | .ok () after => after
  | .error _ after => after

def run (start : σ) (perform : Ref σ → κ → Live σ Unit) (memory : Heap σ)
    (errands : List (Errand κ)) : Heap σ :=
  errands.foldl (fun memory errand => left (errand.program start perform) memory) memory

def follow (start : τ) (meant : τ → κ → τ) (memory : Heap τ) (errands : List (Errand κ)) :
    Heap τ :=
  errands.foldl (Errand.meaning start meant) memory

/-- What an operation makes of the content of a table. -/
def attempt (operation : σ → Except Fault σ) (content : σ) : σ :=
  match operation content with
  | .ok after => after
  | .error _ => content

theorem left_of_performs {program : Live σ Unit} {table : Ref σ} {operation : σ → Except Fault σ}
    (performs : Performs program table operation) (memory : Heap σ) :
    left program memory =
      memory.write table.place (attempt operation (memory.cell table.place)) := by
  rw [left, performs, attempt]
  cases operation (memory.cell table.place) with
  | ok after => rfl
  | error fault => simp

theorem follow_preserves {start : τ} {next : τ → κ → τ} {memory : Heap τ} {invariant : τ → Prop}
    (fresh : invariant start)
    (preserved : ∀ content request, invariant content → invariant (next content request))
    (held : ∀ place, invariant (memory.cell place)) (errands : List (Errand κ)) (place : Nat) :
    invariant ((follow start next memory errands).cell place) := by
  have written (memory : Heap τ) (held : ∀ place, invariant (memory.cell place)) (target : Nat)
      {content : τ} (sound : invariant content) (place : Nat) :
      invariant ((memory.write target content).cell place) := by
    by_cases here : place = target
    · subst here
      simpa using sound
    · rw [Heap.cell_write_of_ne here]
      exact held place
  induction errands generalizing memory with
  | nil => exact held place
  | cons errand rest ih =>
    refine ih fun other => ?_
    cases errand with
    | new => exact written memory held memory.used fresh other
    | copy source => exact written memory held memory.used (held source) other
    | call target request =>
      exact written memory held target (preserved _ request (held target)) other

section Runs

variable {start : σ} {perform : Ref σ → κ → Live σ Unit} {call : σ → κ → Except Fault σ}
  (performs : ∀ table request, Performs (perform table request) table (call · request))
  {memory : Heap σ} {errands : List (Errand κ)} {place : Nat}
include performs

/-- In memory an errand comes to what it means for the contents. -/
theorem left_program (memory : Heap σ) (errand : Errand κ) :
    left (errand.program start perform) memory =
      errand.meaning start (fun content request => attempt (call · request) content) memory := by
  cases errand with
  | new => rfl
  | copy source => rfl
  | call place request => exact left_of_performs (performs ⟨place⟩ request) memory

theorem run_eq_follow (memory : Heap σ) (errands : List (Errand κ)) :
    run start perform memory errands =
      follow start (fun content request => attempt (call · request) content) memory errands := by
  unfold run follow
  congr 1
  funext memory errand
  exact left_program performs memory errand

theorem cell_left_of_not_addressed (taken : place < memory.used) {errand : Errand κ}
    (apart : ¬ errand.Addresses place) :
    let after := left (errand.program start perform) memory
    place < after.used ∧ after.cell place = memory.cell place := by
  rw [left_program performs]
  cases errand with
  | new => exact ⟨Nat.lt_succ_of_lt taken, Heap.cell_push_of_ne (Nat.ne_of_lt taken)⟩
  | copy source => exact ⟨Nat.lt_succ_of_lt taken, Heap.cell_push_of_ne (Nat.ne_of_lt taken)⟩
  | call other request => exact ⟨taken, Heap.cell_write_of_ne (Ne.symm apart)⟩

theorem cell_run_of_not_addressed (taken : place < memory.used)
    (apart : ∀ errand ∈ errands, ¬ errand.Addresses place) :
    (run start perform memory errands).cell place = memory.cell place := by
  induction errands generalizing memory with
  | nil => rfl
  | cons errand rest ih =>
    obtain ⟨stillTaken, kept⟩ : _ < (left (errand.program start perform) memory).used ∧
        (left (errand.program start perform) memory).cell _ = memory.cell _ :=
      cell_left_of_not_addressed performs taken (apart errand (by simp))
    exact (ih stillTaken fun later member => apart later (List.mem_cons_of_mem _ member)).trans kept

/-- Every table keeps what a new one has and every call preserves. -/
theorem run_preserves {invariant : σ → Prop} (fresh : invariant start)
    (preserved : ∀ content request after, call content request = .ok after →
      invariant content → invariant after)
    (held : ∀ place, invariant (memory.cell place)) (errands : List (Errand κ)) (place : Nat) :
    invariant ((run start perform memory errands).cell place) := by
  rw [run_eq_follow performs]
  refine follow_preserves fresh (fun content request sound => ?_) held errands place
  rw [attempt]
  cases answered : call content request with
  | ok after => exact preserved content request after answered sound
  | error fault => exact sound

end Runs

/-- If every call does to the view what it does to the state, every run does. -/
theorem map_follow {start : σ} {next : σ → κ → σ} {meant : τ → κ → τ} {view : σ → τ}
    (square : ∀ state request, view (next state request) = meant (view state) request)
    (memory : Heap σ) (errands : List (Errand κ)) :
    (follow start next memory errands).map view =
      follow (view start) meant (memory.map view) errands := by
  induction errands generalizing memory with
  | nil => rfl
  | cons errand rest ih =>
    have first : (errand.meaning start next memory).map view =
        errand.meaning (view start) meant (memory.map view) := by
      cases errand with
      | new => exact Heap.map_push view memory start
      | copy source => exact Heap.map_push view memory _
      | call place request =>
        rw [Errand.meaning, Heap.map_write, square]
        rfl
    exact (ih _).trans (congrArg (follow (view start) meant · rest) first)

/-- A copy is a new table that starts from what its original holds. From there on what is not
    addressed to the copy does not touch it, be it addressed to the original, nor the other way
    round. -/
def KeepsCopiesApart (start : σ) (perform : Ref σ → κ → Live σ Unit) : Prop :=
  ∀ (memory : Heap σ) (source : Nat), source < memory.used →
    ∃ fresh copied, (⟨source⟩ : Ref σ).copy.run memory = .ok ⟨fresh⟩ copied ∧
      memory.used ≤ fresh ∧
      ∀ errands : List (Errand κ),
        ((∀ errand ∈ errands, ¬ errand.Addresses fresh) →
          (run start perform copied errands).cell fresh = memory.cell source) ∧
        ((∀ errand ∈ errands, ¬ errand.Addresses source) →
          (run start perform copied errands).cell source = memory.cell source)

theorem keepsCopiesApart {start : σ} {perform : Ref σ → κ → Live σ Unit}
    {call : σ → κ → Except Fault σ}
    (performs : ∀ table request, Performs (perform table request) table (call · request)) :
    KeepsCopiesApart start perform := by
  intro memory source taken
  refine ⟨_, _, Ref.run_copy ⟨source⟩ memory, Nat.le_refl _, fun errands => ⟨?_, ?_⟩⟩
  · intro apart
    rw [cell_run_of_not_addressed performs (Nat.lt_succ_self _) apart, Heap.cell_push_used]
  · intro apart
    rw [cell_run_of_not_addressed performs (Nat.lt_succ_of_lt taken) apart,
      Heap.cell_push_of_ne (Nat.ne_of_lt taken)]

/-! ## Calls that may be refused -/

def unlessBarred (barred : τ → κ → Prop) [∀ state request, Decidable (barred state request)]
    (change : τ → κ → τ) (state : τ) (request : κ) : τ :=
  if barred state request then state else change state request

/-- What calls do, told by what tables stand for. -/
structure Explains (barred : τ → κ → Prop) (change : τ → κ → τ) (view : σ → τ)
    (call : σ → κ → Except Fault σ) : Prop where
  refused : ∀ {content request}, barred (view content) request →
    ∃ cause, call content request = .error (.badValue cause)
  granted : ∀ {content request}, ¬ barred (view content) request →
    ∃ after, call content request = .ok after ∧ view after = change (view content) request

/-- A table refuses what is barred, as a bad value, and then memory is as it was. It refuses
    nothing else. -/
structure Answers (perform : κ → Live σ Unit) (memory : Heap σ) (barred : κ → Prop) : Prop where
  refused : ∀ request, barred request →
    ∃ cause, (perform request).run memory = .error (.badValue cause) memory
  granted : ∀ request, ¬ barred request → ∃ after, (perform request).run memory = .ok () after

namespace Explains

variable {barred : τ → κ → Prop} {change : τ → κ → τ} {view : σ → τ}
  {call : σ → κ → Except Fault σ} {perform : Ref σ → κ → Live σ Unit}
  (explains : Explains barred change view call)
  (performs : ∀ table request, Performs (perform table request) table (call · request))

include explains performs in
theorem answers (memory : Heap σ) (place : Nat) :
    Answers (perform ⟨place⟩) memory (barred (view (memory.cell place))) where
  refused request isBarred := by
    obtain ⟨cause, refused⟩ := explains.refused isBarred
    exact ⟨cause, by rw [performs]; simp only [refused]⟩
  granted request isFree := by
    obtain ⟨after, granted, -⟩ := explains.granted isFree
    exact ⟨memory.write place after, by rw [performs]; simp only [granted]⟩

variable [∀ state request, Decidable (barred state request)]

include explains in
theorem view_attempt (content : σ) (request : κ) :
    view (attempt (call · request) content) =
      unlessBarred barred change (view content) request := by
  by_cases isBarred : barred (view content) request
  · obtain ⟨cause, refused⟩ := explains.refused isBarred
    simp only [attempt, refused, unlessBarred, isBarred, if_true]
  · obtain ⟨after, granted, shown⟩ := explains.granted isBarred
    simp only [attempt, granted, unlessBarred, isBarred, if_false, shown]

include explains performs in
theorem view_run (start : σ) (errands : List (Errand κ)) (place : Nat) :
    view ((run start perform (.blank start) errands).cell place) =
      (follow (view start) (unlessBarred barred change) (.blank (view start)) errands).cell
        place := by
  rw [run_eq_follow performs]
  exact congrFun (congrArg Heap.cell (map_follow explains.view_attempt (.blank start) errands)) place

end Explains

end Shelf

end VeiledPool
