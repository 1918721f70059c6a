import VeiledPool.Exchange.Action
import VeiledPool.Proofs.Fault.Legible

/-! # Objections

What a request can be refused for is listed as objections in the order in which
they are looked for; the first that is raised is the refusal. Requests that are
decided one after the other have their lists of objections one after the other. An
objection that cannot be worded is raised all the same, as an illegible value.
-/

namespace VeiledPool

/-- A reason for a refusal, with the code that callers see. -/
structure Objection where
  code : String
  fault : Fault
  coded : fault.rejectionCode = code := by rfl
  deriving DecidableEq

namespace Objection

variable {α β : Type}

def raised (condition : Prop) [Decidable condition] (objection : Objection) : Option Objection :=
  if condition then some objection else none

/-- The objection as it is worded: it comes out as an illegible value if it would have to
    show an integer that cannot be written out. -/
def legibly (objection : Objection) : Objection :=
  if ∀ figure ∈ objection.fault.figures, Legible figure then objection
  else { code := "invalid_input", fault := .badValue .illegible }

theorem fault_legibly (objection : Objection) : objection.legibly.fault = objection.fault.raised := by
  unfold legibly
  split
  · rename_i legible
    rw [Fault.raised_of_legible legible]
  · rename_i long
    have illegible : Illegible objection.fault.figures :=
      Classical.byContradiction fun legible => long (not_illegible_iff.1 legible)
    rw [raised_of_illegible illegible]

/-- The answer, unless there is something against it. -/
def barring (objection? : Option Objection) (answer : α) : Except Fault α :=
  match objection? with
  | some objection => .error objection.fault
  | none => .ok answer

theorem raised_eq_none_iff {condition : Prop} [Decidable condition] {objection : Objection} :
    raised condition objection = none ↔ ¬ condition := by
  simp [raised]

theorem barring_raised {condition : Prop} [Decidable condition] (objection : Objection)
    (answer : α) :
    barring (raised condition objection) answer =
      if condition then .error objection.fault else .ok answer := by
  unfold raised
  split <;> rfl

theorem barring_raised_orElse {condition : Prop} [Decidable condition] (objection : Objection)
    (rest : Option Objection) (answer : α) :
    barring (raised condition objection <|> rest) answer =
      if condition then .error objection.fault else barring rest answer := by
  unfold raised
  split <;> rfl

theorem barring_bind {first second : Option Objection} {answer : α} {result : β}
    {next : α → Except Fault β} (onward : first = none → next answer = barring second result) :
    barring first answer >>= next = barring (first <|> second) result := by
  cases first with
  | some objection => exact error_bind objection.fault next
  | none => exact (ok_bind answer next).trans (onward rfl)

theorem barring_bind_pure (objection? : Option Objection) (answer : α) (convert : α → β) :
    (barring objection? answer >>= fun value => pure (convert value)) =
      barring objection? (convert answer) := by
  cases objection? with
  | some objection => exact error_bind objection.fault _
  | none => exact ok_bind answer _

theorem barring_of_none {first second : Option Objection} {result : α}
    (passed : first = none) : barring (first <|> second) result = barring second result := by
  rw [passed]
  rfl

theorem orElse_eq_none_iff {first second : Option Objection} :
    (first <|> second) = none ↔ first = none ∧ second = none := by
  cases first <;> simp

end Objection

end VeiledPool
