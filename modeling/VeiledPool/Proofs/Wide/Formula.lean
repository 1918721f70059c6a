import VeiledPool.Proofs.Wide.Range
import VeiledPool.Wide.Expr

/-! # Formulas are exact or absent

A formula is written down without a thought for any range. Every number in it is
admitted first, and if anything in it then leaves the range or is divided by zero,
the whole of it is absent; otherwise its value is the exact one.
-/

namespace VeiledPool.Wide

/-- A value that is there under a condition. -/
def provided (condition : Prop) [Decidable condition] (value : Int) : Wide :=
  if condition then some value else none

section Provided

variable {left right own condition : Prop} [Decidable left] [Decidable right] [Decidable own]
  [Decidable condition] {a b value result : Int}

theorem lift_eq_provided (value : Int) : lift value = provided (InRange value) value := rfl

theorem provided_eq_some_iff :
    provided condition value = some result ↔ condition ∧ result = value := by
  simp [provided, eq_comm]

theorem provided_eq_none_iff : provided condition value = none ↔ ¬ condition := by
  simp [provided]

theorem demand_provided (cause : Overflow) :
    demand cause (provided condition value) =
      if condition then .ok value else .error (.overflow cause) := by
  unfold provided
  split <;> rfl

theorem provided_congr (same : left ↔ right) (value : Int) :
    provided left value = provided right value := by
  simp [provided, same]

theorem both_provided {operation : Int → Int → Wide}
    (result : left → right → operation a b = provided own value) :
    both operation (provided left a) (provided right b) =
      provided ((left ∧ right) ∧ own) value := by
  by_cases first : left
  · by_cases second : right
    · simp only [provided, first, second, if_true, both, result first second, true_and]
    · simp [provided, second, both]
  · simp [provided, first, both]

end Provided

/-! ## Formulas -/

inductive Operation where
  | add
  | sub
  | mul
  | div
  | divCeil
  deriving DecidableEq

namespace Operation

def exact : Operation → Int → Int → Int
  | add, a, b => a + b
  | sub, a, b => a - b
  | mul, a, b => a * b
  | div, a, b => ⌊(a : ℚ) / b⌋
  | divCeil, a, b => ⌈(a : ℚ) / b⌉

/-- Whether the right operand is a divisor. -/
def divides : Operation → Bool
  | add | sub | mul => false
  | div | divCeil => true

def expr : Operation → Expr → Expr → Expr
  | add => .add
  | sub => .sub
  | mul => .mul
  | div => .div
  | divCeil => .divCeil

def checked : Operation → Wide → Wide → Wide
  | add => Wide.add
  | sub => Wide.sub
  | mul => Wide.mul
  | div => Wide.div
  | divCeil => Wide.divCeil

/-- What the operation asks of its operands beyond their presence. -/
def Admits (operation : Operation) (a b : Int) : Prop :=
  (operation.divides = true → b ≠ 0) ∧ InRange (operation.exact a b)

instance (operation : Operation) (a b : Int) : Decidable (operation.Admits a b) :=
  inferInstanceAs (Decidable (_ ∧ _))

variable {operation : Operation} {a b : Int}

theorem eval_expr (operation : Operation) (left right : Expr) :
    (operation.expr left right).eval = (do
      let a ← left.eval
      let b ← right.eval
      pure (operation.checked a b)) := by
  cases operation <;> rfl

theorem lift_exact (operation : Operation) (a b : Int) (undivided : operation.divides = false) :
    lift (operation.exact a b) = provided (operation.Admits a b) (operation.exact a b) := by
  rw [lift_eq_provided]
  exact provided_congr (by simp [Admits, undivided]) _

/-- A quotient that is not checked, and is in range all the same. -/
theorem unless_zero_eq_provided (divided : operation.divides = true) {quotient : Int}
    (rounded : quotient = operation.exact a b)
    (inRange : b ≠ 0 → InRange (operation.exact a b)) :
    (if b = 0 then none else some quotient) =
      provided (operation.Admits a b) (operation.exact a b) := by
  subst rounded
  by_cases zero : b = 0
  · simp [provided, Admits, divided, zero]
  · simp [provided, Admits, zero, inRange zero]

theorem checked_provided (operation : Operation) {first second : Prop} [Decidable first]
    [Decidable second] (left : first → InRange a) (right : second → InRange b) :
    operation.checked (provided first a) (provided second b) =
      provided ((first ∧ second) ∧ operation.Admits a b) (operation.exact a b) := by
  cases operation with
  | add => exact both_provided fun _ _ => lift_exact .add a b rfl
  | sub => exact both_provided fun _ _ => lift_exact .sub a b rfl
  | mul => exact both_provided fun _ _ => lift_exact .mul a b rfl
  | div =>
    refine both_provided fun hasLeft hasRight => unless_zero_eq_provided rfl ?_ ?_
    · exact fdiv_eq_floor a (right hasRight)
    · exact inRange_floor (left hasLeft) (right hasRight)
  | divCeil =>
    refine both_provided fun hasLeft hasRight => unless_zero_eq_provided rfl ?_ ?_
    · exact neg_fdiv_neg_eq_ceil a (right hasRight)
    · exact inRange_ceil (left hasLeft) (right hasRight)

end Operation

/-- A formula over integers. -/
inductive Formula where
  | number (value : Int)
  | combine (operation : Operation) (left right : Formula)
  | root (operand : Formula)
  deriving DecidableEq

namespace Formula

def expr : Formula → Expr
  | number value => .lift (.given value)
  | combine operation left right => operation.expr left.expr right.expr
  | root operand => .root operand.expr

def exact : Formula → Int
  | number value => value
  | combine operation left right => operation.exact left.exact right.exact
  | root operand => Int.sqrt operand.exact

/-- The formula and everything it is made of. -/
def nodes : Formula → List Formula
  | number value => [number value]
  | combine operation left right => combine operation left right :: (left.nodes ++ right.nodes)
  | root operand => root operand :: operand.nodes

/-- Everything in the formula that something is divided by. -/
def divisors : Formula → List Formula
  | number _ => []
  | combine operation left right =>
    (if operation.divides then [right] else []) ++ (left.divisors ++ right.divisors)
  | root operand => operand.divisors

/-- No number that turns up in the formula is out of range, and nothing is divided by
    zero. -/
structure Fits (formula : Formula) : Prop where
  inRange : ∀ node ∈ formula.nodes, InRange node.exact
  nonzero : ∀ divisor ∈ formula.divisors, divisor.exact ≠ 0

theorem fits_iff {formula : Formula} :
    formula.Fits ↔ (∀ node ∈ formula.nodes, InRange node.exact) ∧
      ∀ divisor ∈ formula.divisors, divisor.exact ≠ 0 :=
  ⟨fun fits => ⟨fits.inRange, fits.nonzero⟩, fun fits => ⟨fits.1, fits.2⟩⟩

instance (formula : Formula) : Decidable formula.Fits := decidable_of_iff' _ fits_iff

variable {formula left right operand : Formula} {operation : Operation}

theorem self_mem_nodes (formula : Formula) : formula ∈ formula.nodes := by
  cases formula <;> simp [nodes]

theorem Fits.exact_inRange (fits : formula.Fits) : InRange formula.exact :=
  fits.inRange formula formula.self_mem_nodes

theorem fits_number (value : Int) : (number value).Fits ↔ InRange value := by
  simp [fits_iff, nodes, divisors, exact]

theorem fits_combine :
    (combine operation left right).Fits ↔
      (left.Fits ∧ right.Fits) ∧ operation.Admits left.exact right.exact := by
  have divided : (∀ divisor ∈ if operation.divides then [right] else [], divisor.exact ≠ 0) ↔
      (operation.divides = true → right.exact ≠ 0) := by
    cases operation.divides <;> simp
  simp only [fits_iff, nodes, divisors, List.forall_mem_cons, List.forall_mem_append, divided,
    Operation.Admits, exact]
  tauto

theorem fits_root : (root operand).Fits ↔ operand.Fits := by
  constructor
  · intro fits
    exact ⟨fun node member => fits.inRange node (List.mem_cons_of_mem _ member), fits.nonzero⟩
  · intro fits
    exact ⟨List.forall_mem_cons.2 ⟨inRange_sqrt fits.exact_inRange, fits.inRange⟩, fits.nonzero⟩

/-- A formula never faults: it has its exact value if everything in it fits, and is absent
    otherwise. -/
theorem eval_expr (formula : Formula) :
    formula.expr.eval = .ok (provided formula.Fits formula.exact) := by
  induction formula with
  | number value =>
    have admitted : (number value).expr.eval = .ok (lift value) := rfl
    rw [admitted, lift_eq_provided, provided_congr (fits_number value).symm]
    rfl
  | combine operation left right ihLeft ihRight =>
    rw [expr, Operation.eval_expr, ihLeft, ok_bind, ihRight, ok_bind,
      operation.checked_provided Fits.exact_inRange Fits.exact_inRange,
      provided_congr fits_combine.symm]
    rfl
  | root operand ih =>
    rw [expr, Expr.eval, ih, ok_bind]
    by_cases fits : operand.Fits
    · have positive := fits.exact_inRange.1
      simp only [provided, fits, fits_root.2 fits, if_true, Int.not_lt.2 positive, if_false]
      rw [Wide.root, Option.map_some, floorSqrt_eq_sqrt]
      rfl
    · simp only [provided, fits, mt fits_root.1 fits, if_false]
      rfl

theorem eval_expr_of_not_fits (unfit : ¬ formula.Fits) : formula.expr.eval = .ok none := by
  rw [eval_expr, provided_eq_none_iff.2 unfit]

/-- A formula has a value exactly if every number in it, the whole of it included, is in
    range and nothing is divided by zero, and then it is the exact value; otherwise it is
    absent, and whoever demands it gets an overflow. Nothing that comes later brings back a
    part that left the range, and no part, quotient and root included, has a value out of
    range. -/
theorem exact_or_absent (formula : Formula) :
    (∀ value, formula.expr.eval = .ok (some value) ↔ formula.Fits ∧ value = formula.exact) ∧
    (¬ formula.Fits → formula.expr.eval = .ok none) ∧
    (∀ cause, (formula.expr.eval >>= demand cause) =
      if formula.Fits then .ok formula.exact else .error (.overflow cause)) ∧
    (∀ node ∈ formula.nodes, ¬ InRange node.exact → formula.expr.eval = .ok none) ∧
    ∀ node ∈ formula.nodes, ∀ value, node.expr.eval = .ok (some value) → InRange value := by
  refine ⟨?value, eval_expr_of_not_fits, ?demanded, ?unrepaired, ?inRange⟩
  case value =>
    intro value
    rw [eval_expr, Except.ok.injEq, provided_eq_some_iff]
  case demanded =>
    intro cause
    rw [eval_expr, ok_bind, demand_provided]
  case unrepaired =>
    intro node member outside
    exact eval_expr_of_not_fits fun fits => outside (fits.inRange node member)
  case inRange =>
    intro node _ value evaluated
    rw [eval_expr, Except.ok.injEq, provided_eq_some_iff] at evaluated
    obtain ⟨fits, rfl⟩ := evaluated
    exact fits.exact_inRange

/-- Ten less a third of twice the largest number; that third would be in range. -/
def sampleRepaired : Formula :=
  .combine .sub (.number 10) (.combine .div
    (.combine .mul (.number wideMax) (.number 2)) (.combine .add (.number 1) (.number 2)))

/-- The root of seven halves rounded up, less seven quarters rounded down. -/
def sampleRounded : Formula :=
  .combine .sub (.root (.combine .divCeil (.number 7) (.number 2)))
    (.combine .div (.number 7) (.number 4))

theorem exact_or_absent_sample :
    (∃ node ∈ sampleRepaired.nodes, ¬ InRange node.exact) ∧
      sampleRepaired.expr.eval = .ok none ∧
      sampleRounded.Fits ∧ sampleRounded.expr.eval = .ok (some 1) := by
  have doubled : (combine .mul (number wideMax) (number 2)) ∈ sampleRepaired.nodes := by
    decide +kernel
  have outside : ¬ InRange (combine .mul (number wideMax) (number 2)).exact := by
    decide +kernel
  have fits : sampleRounded.Fits := by decide +kernel
  have value : 1 = sampleRounded.exact := by decide +kernel
  exact ⟨⟨_, doubled, outside⟩,
    (exact_or_absent sampleRepaired).2.2.2.1 _ doubled outside,
    fits, ((exact_or_absent sampleRounded).1 1).2 ⟨fits, value⟩⟩

end Formula

end VeiledPool.Wide
