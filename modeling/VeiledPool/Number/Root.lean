/-! # Integer square roots

`floorSqrt n` is the largest natural number whose square does not exceed `n`,
for numbers of any size. Its law is `floorSqrt_sq_le` together with
`lt_floorSqrt_succ_sq`.
-/

namespace VeiledPool

/-- Largest `r` with `r * r ≤ n`. Twice the root of `n / 4` is that number or
    falls short of it by one. -/
def floorSqrt (n : Nat) : Nat :=
  if n = 0 then 0
  else
    let low := 2 * floorSqrt (n / 4)
    if (low + 1) * (low + 1) ≤ n then low + 1 else low
termination_by n
decreasing_by omega

/-- Both halves of the law at once, as the recursion needs them. -/
theorem floorSqrt_bounds (n : Nat) :
    floorSqrt n * floorSqrt n ≤ n ∧ n < (floorSqrt n + 1) * (floorSqrt n + 1) := by
  induction n using Nat.strongRecOn with
  | ind n ih =>
    rw [floorSqrt]
    by_cases hn : n = 0
    · simp [hn]
    · have quarter := ih (n / 4) (by omega)
      simp only [hn, if_false]
      generalize floorSqrt (n / 4) = q at quarter ⊢
      split <;> grind

theorem floorSqrt_sq_le (n : Nat) : floorSqrt n * floorSqrt n ≤ n :=
  (floorSqrt_bounds n).1

theorem lt_floorSqrt_succ_sq (n : Nat) : n < (floorSqrt n + 1) * (floorSqrt n + 1) :=
  (floorSqrt_bounds n).2

end VeiledPool
