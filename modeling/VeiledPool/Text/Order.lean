/-! # Order of texts

Texts are ordered by their code points, the first difference deciding; a text comes
before every longer one that it begins.
-/

namespace VeiledPool.Text

/-- One row of code points comes strictly before another. -/
def precedes : List Nat → List Nat → Bool
  | [], [] => false
  | [], _ :: _ => true
  | _ :: _, [] => false
  | c :: rest, d :: others => c < d || c = d && precedes rest others

@[simp]
theorem precedes_self (points : List Nat) : precedes points points = false := by
  induction points with
  | nil => rfl
  | cons c rest ih => simp [precedes, ih]

/-- Of two different rows one comes first. -/
theorem precedes_of_ne {left right : List Nat} (distinct : left ≠ right)
    (h : precedes left right = false) : precedes right left = true := by
  fun_induction precedes left right with
  | case1 => exact absurd rfl distinct
  | case2 => cases h
  | case3 => rfl
  | case4 c rest d others ih =>
    simp only [Bool.or_eq_false_iff, decide_eq_false_iff_not, Nat.not_lt] at h
    by_cases same : c = d
    · subst same
      have apart : rest ≠ others := fun equal => distinct (by rw [equal])
      have later : precedes rest others = false := by simpa using h.2
      simp [precedes, ih apart later]
    · have below : d < c := Nat.lt_of_le_of_ne h.1 (Ne.symm same)
      simp [precedes, below]

end VeiledPool.Text
