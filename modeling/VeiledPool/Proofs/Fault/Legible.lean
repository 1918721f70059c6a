import VeiledPool.Proofs.Fault.Sequence

/-! # Legible reports

A report shows integers, and an integer that cannot be written out leaves an illegible
value in the place of the fault. So a computation is refused for faults of its own kind
as long as all that its reports show is legible, and for one more otherwise.
-/

namespace VeiledPool

variable {α : Type} {allowed : Fault → Prop} {figures : List Int} {fault : Fault}

theorem legible_natCast_iff {value : Nat} :
    Legible value ↔ value < Nat.pow 10 longestFigure := by
  rw [Legible, Int.natAbs_natCast]

def Illegible (figures : List Int) : Prop := ∃ figure ∈ figures, ¬ Legible figure

@[simp]
theorem not_illegible_nil : ¬ Illegible [] := by
  simp [Illegible]

@[simp]
theorem illegible_cons {figure : Int} :
    Illegible (figure :: figures) ↔ ¬ Legible figure ∨ Illegible figures := by
  simp [Illegible]

theorem not_illegible_iff : ¬ Illegible figures ↔ ∀ figure ∈ figures, Legible figure := by
  simp [Illegible]

theorem Illegible.of_covered {shown : List Int} (illegible : Illegible figures)
    (covered : ∀ figure ∈ figures, Legible figure ∨ figure ∈ shown) : Illegible shown := by
  obtain ⟨figure, member, long⟩ := illegible
  exact ⟨figure, (covered figure member).resolve_left long, long⟩

theorem raised_of_not_illegible (legible : ¬ Illegible fault.figures) : fault.raised = fault :=
  Fault.raised_of_legible (not_illegible_iff.1 legible)

theorem raised_of_illegible (illegible : Illegible fault.figures) :
    fault.raised = .badValue .illegible := by
  obtain ⟨figure, shown, long⟩ := illegible
  exact Fault.raised_of_illegible shown long

theorem raised_eq_or (fault : Fault) : fault.raised = fault ∨
    Illegible fault.figures ∧ fault.raised = .badValue .illegible := by
  by_cases illegible : Illegible fault.figures
  · exact .inr ⟨illegible, raised_of_illegible illegible⟩
  · exact .inl (raised_of_not_illegible illegible)

theorem failsOnly_raised (permitted : allowed fault)
    (illegibles : Illegible fault.figures → allowed (.badValue .illegible)) :
    FailsOnly allowed (.error fault.raised : Except Fault α) := by
  rcases raised_eq_or fault with same | ⟨illegible, replaced⟩
  · rw [same]
    exact failsOnly_error permitted
  · rw [replaced]
    exact failsOnly_error (illegibles illegible)

/-- What is raised for a fault of one kind: the fault, or an illegible value where one of
    the integers that may have to be shown cannot be written out. -/
def Fault.RaisedAs {β : Type} (kind : β → Fault) (shown : List Int) (fault : Fault) : Prop :=
  (∃ cause, fault = kind cause) ∨ Illegible shown ∧ fault = .badValue .illegible

/-- There is no result, for reasons of one kind. -/
def RefusedAs {β : Type} (kind : β → Fault) (shown : List Int) (result : Except Fault α) : Prop :=
  ∃ fault, result = .error fault ∧ fault.RaisedAs kind shown

section RefusedAs

variable {β : Type} {kind : β → Fault} {shown : List Int} {result : Except Fault α}

theorem raisedAs_kind (cause : β) : (kind cause).RaisedAs kind shown :=
  .inl ⟨cause, rfl⟩

theorem raisedAs_illegible (illegible : Illegible shown) :
    (Fault.badValue .illegible).RaisedAs kind shown :=
  .inr ⟨illegible, rfl⟩

/-- Where everything is legible, only faults of the kind itself are left. -/
theorem RefusedAs.exists_cause (refused : RefusedAs kind shown result)
    (legible : ¬ Illegible shown) : ∃ cause, result = .error (kind cause) := by
  obtain ⟨_, failed, ⟨cause, rfl⟩ | ⟨illegible, -⟩⟩ := refused
  · exact ⟨cause, failed⟩
  · exact absurd illegible legible

theorem FailsOnly.refusedAs (fails : FailsOnly (Fault.RaisedAs kind shown) result)
    (unanswered : ¬ ∃ value, result = .ok value) : RefusedAs kind shown result := by
  cases result with
  | ok value => exact absurd ⟨value, rfl⟩ unanswered
  | error fault => exact ⟨fault, rfl, fails fault rfl⟩

theorem refusedAs_raised {cause : β}
    (covered : ∀ figure ∈ (kind cause).figures, Legible figure ∨ figure ∈ shown) :
    RefusedAs kind shown (.error (kind cause).raised : Except Fault α) := by
  refine ⟨_, rfl, ?_⟩
  rcases raised_eq_or (kind cause) with same | ⟨illegible, replaced⟩
  · rw [same]
    exact raisedAs_kind cause
  · rw [replaced]
    exact raisedAs_illegible (illegible.of_covered covered)

end RefusedAs

theorem written_of_not_illegible (legible : ¬ Illegible figures) (text : α) :
    written figures text = .ok text :=
  if_pos (not_illegible_iff.1 legible)

theorem written_of_illegible (illegible : Illegible figures) (text : α) :
    written figures text = .error (.badValue .illegible) :=
  if_neg fun legible => not_illegible_iff.2 legible illegible

end VeiledPool
