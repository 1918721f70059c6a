import VeiledPool.Fault.Basic
import VeiledPool.Number.Root

/-! # Checked 256-bit arithmetic

A `Wide` is an integer or absent. Every operation passes absence on and is
absent where its exact result does not exist, so a formula is written as one
expression and its failure is noticed once, at the end, by `Wide.require`.
Additions, subtractions and products are checked against the range; quotients
and roots of numbers in the range cannot leave it.
-/

namespace VeiledPool

/-- Largest unsigned number of 256 bits. -/
def wideMax : Nat := Nat.pow 2 256 - 1

/-- Largest unsigned number of 128 bits, the range of an amount. -/
def amountMax : Nat := Nat.pow 2 128 - 1

/-- An integer, or nothing where a computation has no result. -/
abbrev Wide := Option Int

namespace Wide

/-- An integer, if it is an unsigned number of 256 bits. -/
def lift (value : Int) : Wide :=
  if 0 ≤ value ∧ value ≤ wideMax then some value else none

/-- An operation on two operands that are both present. -/
def both (operation : Int → Int → Wide) : Wide → Wide → Wide
  | some a, some b => operation a b
  | _, _ => none

def add : Wide → Wide → Wide :=
  both fun a b => lift (a + b)

def sub : Wide → Wide → Wide :=
  both fun a b => lift (a - b)

def mul : Wide → Wide → Wide :=
  both fun a b => lift (a * b)

/-- Quotient rounded down; absent for a zero divisor. -/
def div : Wide → Wide → Wide :=
  both fun a b => if b = 0 then none else some (a.fdiv b)

/-- Quotient rounded up; absent for a zero divisor. -/
def divCeil : Wide → Wide → Wide :=
  both fun a b => if b = 0 then none else some (-(-a).fdiv b)

def root (a : Wide) : Wide :=
  a.map fun value => floorSqrt value.toNat

/-- The value of a computation, or a fault with a report that is already worded. -/
def demand (cause : Overflow) : Wide → Except Fault Int
  | some value => .ok value
  | none => .error (.overflow cause)

/-- The value of a computation, or the fault that is raised for want of it. A report can
    be worded before the value is looked at, or only where there is none: every number
    shown beside a value that exists is within 256 bits, and so legible. -/
def require (cause : Overflow) : Wide → Except Fault Int
  | some value => .ok value
  | none => .error (Fault.overflow cause).raised

@[simp]
theorem demand_some (cause : Overflow) (value : Int) : demand cause (some value) = .ok value := rfl

@[simp]
theorem demand_none (cause : Overflow) : demand cause none = .error (.overflow cause) := rfl

@[simp]
theorem require_some (cause : Overflow) (value : Int) :
    require cause (some value) = .ok value := rfl

@[simp]
theorem require_none (cause : Overflow) :
    require cause none = .error (Fault.overflow cause).raised := rfl

theorem lift_eq_some_iff {value result : Int} :
    lift value = some result ↔ (0 ≤ value ∧ value ≤ wideMax) ∧ value = result := by
  simp [lift]

end Wide

/-- How far `a` lies above `b`, and zero if it does not. -/
def excess (a b : Int) : Int :=
  if b < a then a - b else 0

/-- Takes a wide result back into the range of an amount, never by cutting it. -/
def narrow (quantity : String) (value : Int) : Except Fault Nat :=
  if 0 ≤ value ∧ value ≤ amountMax then .ok value.toNat
  else .error (Fault.overflow (.narrowing quantity value)).raised

end VeiledPool
