import VeiledPool.Fault.Basic

/-! # Refusals in sequence

A computation that may be refused is a chain of steps, each of which needs the
ones before it. It answers exactly if every step does, and it is refused for no
other faults than its steps are.
-/

namespace VeiledPool

variable {α β : Type}

theorem bind_eq_ok {step : Except Fault α} {next : α → Except Fault β} {result : β} :
    step >>= next = .ok result ↔ ∃ value, step = .ok value ∧ next value = .ok result := by
  cases step <;> simp [bind, Except.bind]

@[simp]
theorem ok_bind (value : α) (next : α → Except Fault β) :
    (Except.ok value : Except Fault α) >>= next = next value := by
  simp [bind, Except.bind]

@[simp]
theorem error_bind (fault : Fault) (next : α → Except Fault β) :
    (Except.error fault : Except Fault α) >>= next = .error fault := by
  simp [bind, Except.bind]

theorem bind_eq_error {step : Except Fault α} {next : α → Except Fault β} {fault : Fault} :
    step >>= next = .error fault ↔
      step = .error fault ∨ ∃ value, step = .ok value ∧ next value = .error fault := by
  cases step <;> simp [bind, Except.bind]

theorem bind_pure_eq_error {step : Except Fault α} {convert : α → β} {fault : Fault} :
    (step >>= fun value => pure (convert value)) = .error fault ↔ step = .error fault := by
  cases step <;> simp [bind, Except.bind, pure, Except.pure]

theorem map_eq_ok {step : Except Fault α} {convert : α → β} {result : β} :
    convert <$> step = .ok result ↔ ∃ value, step = .ok value ∧ convert value = result := by
  cases step <;> simp [Functor.map, Except.map]

theorem map_eq_error {step : Except Fault α} {convert : α → β} {fault : Fault} :
    convert <$> step = .error fault ↔ step = .error fault := by
  cases step <;> simp [Functor.map, Except.map]

theorem pure_eq_ok {value result : α} :
    (pure value : Except Fault α) = .ok result ↔ value = result := by
  simp [pure, Except.pure]

/-- A computation that is refused for faults of some kinds only. -/
def FailsOnly (allowed : Fault → Prop) (result : Except Fault α) : Prop :=
  ∀ fault, result = .error fault → allowed fault

variable {allowed : Fault → Prop}

theorem failsOnly_ok (value : α) : FailsOnly allowed (.ok value) := by
  intro fault failed
  cases failed

theorem failsOnly_error {fault : Fault} (permitted : allowed fault) :
    FailsOnly allowed (.error fault : Except Fault α) := by
  intro other failed
  cases failed
  exact permitted

theorem failsOnly_bind_of_ok {step : Except Fault α} {next : α → Except Fault β}
    (first : FailsOnly allowed step)
    (rest : ∀ value, step = .ok value → FailsOnly allowed (next value)) :
    FailsOnly allowed (step >>= next) := by
  intro fault failed
  cases bind_eq_error.1 failed with
  | inl here => exact first fault here
  | inr later =>
    obtain ⟨value, answered, failed⟩ := later
    exact rest value answered fault failed

theorem failsOnly_bind {step : Except Fault α} {next : α → Except Fault β}
    (first : FailsOnly allowed step) (rest : ∀ value, FailsOnly allowed (next value)) :
    FailsOnly allowed (step >>= next) :=
  failsOnly_bind_of_ok first fun value _ => rest value

theorem check_if_eq_ok {condition : Prop} [Decidable condition] {check : Except Fault Unit}
    {rest : Except Fault α} {result : α} :
    (if condition then check >>= fun _ => rest else rest) = .ok result ↔
      (condition → check = .ok ()) ∧ rest = .ok result := by
  split
  · rename_i holds
    simp only [bind_eq_ok, holds, forall_const]
    constructor
    · rintro ⟨⟨⟩, passed, answered⟩
      exact ⟨passed, answered⟩
    · rintro ⟨passed, answered⟩
      exact ⟨(), passed, answered⟩
  · rename_i fails
    simp [fails]

end VeiledPool
