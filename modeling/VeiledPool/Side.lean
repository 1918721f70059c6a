/-! # The two sides of a pair -/

namespace VeiledPool

/-- One side of a pair, in canonical order. -/
inductive Side where
  /-- The side of the asset that comes first. -/
  | first
  /-- The side of the asset that comes second. -/
  | second
  deriving DecidableEq, Repr

namespace Side

def other : Side → Side
  | first => second
  | second => first

/-- Position of the side, counted from zero. -/
def index : Side → Nat
  | first => 0
  | second => 1

/-- The component of a couple that belongs to a side. -/
def of {α : Type} : Side → α × α → α
  | first, couple => couple.1
  | second, couple => couple.2

@[simp]
theorem other_other (side : Side) : side.other.other = side := by
  cases side <;> rfl

theorem other_ne (side : Side) : side.other ≠ side := by
  cases side <;> simp [other]

@[simp]
theorem of_first {α : Type} (couple : α × α) : first.of couple = couple.1 := rfl

@[simp]
theorem of_second {α : Type} (couple : α × α) : second.of couple = couple.2 := rfl

end Side

end VeiledPool
