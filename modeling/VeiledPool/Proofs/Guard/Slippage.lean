import Mathlib.Tactic.Ring
import VeiledPool.Proofs.Guard.Spread
import VeiledPool.Proofs.Request.Guard

/-! # What a tolerance lets pass

A deposit is compared with the pool in both directions, each time through ratios
that are rounded down. The rounding of the deposit's ratio works for the deposit
and that of the pool's against it, yet a deposit within its tolerance always
passes, and one that passes is at most two atoms beyond it.
-/

namespace VeiledPool.Slippage

open Fixed (unit)

/-- The price of a deposit in one direction, as far as the tolerance leaves it. -/
def tolerated (kept offered paid : Nat) : Nat :=
  offered * unit / paid * kept / unit

theorem tolerated_mul_le (kept offered paid : Nat) :
    tolerated kept offered paid * paid ≤ offered * kept := by
  rw [tolerated, Nat.mul_comm _ kept, Nat.mul_comm offered kept]
  exact Fixed.scaled_mul_le kept offered paid

/-- Each of the two divisions takes off less than an atom. -/
theorem lt_tolerated_mul {kept paid : Nat} (part : kept ≤ unit) (given : 0 < paid)
    (offered : Nat) : offered * kept < (tolerated kept offered paid + 2) * paid := by
  have rounded := Fixed.lt_scaled_mul kept offered given
  rw [Nat.mul_comm kept (_ / _), ← tolerated, Nat.mul_comm kept] at rounded
  refine Nat.lt_of_mul_lt_mul_right (a := unit) ?_
  calc offered * kept * unit
      < ((tolerated kept offered paid + 1) * unit + kept) * paid := rounded
    _ ≤ ((tolerated kept offered paid + 1) * unit + unit) * paid :=
        Nat.mul_le_mul_right _ (Nat.add_le_add_left part _)
    _ = (tolerated kept offered paid + 2) * paid * unit := by ring

/-- In the direction of a side, the deposit's price less the tolerance is not above the
    pool's. -/
def Within (tolerance : Fixed) (deposit pool : Side → Nat) (side : Side) : Prop :=
  deposit side * (unit - tolerance.atomics) * pool side.other ≤
    pool side * deposit side.other * unit

/-- It is less than two atoms above. -/
def NearlyWithin (tolerance : Fixed) (deposit pool : Side → Nat) (side : Side) : Prop :=
  deposit side * (unit - tolerance.atomics) * pool side.other <
    pool side * deposit side.other * unit + 2 * (deposit side.other * pool side.other)

/-- What the guard compares instead. -/
def Overpriced (tolerance : Fixed) (deposit pool : Side → Nat) (side : Side) : Prop :=
  pool side * unit / pool side.other <
    tolerated (unit - tolerance.atomics) (deposit side) (deposit side.other)

instance (tolerance : Fixed) (deposit pool : Side → Nat) (side : Side) :
    Decidable (Overpriced tolerance deposit pool side) :=
  inferInstanceAs (Decidable (_ < _))

variable {tolerance : Fixed} {deposit pool : Side → Nat} {side : Side}

theorem not_overpriced_iff (funded : 0 < pool side.other) :
    ¬ Overpriced tolerance deposit pool side ↔
      tolerated (unit - tolerance.atomics) (deposit side) (deposit side.other) * pool side.other ≤
        pool side * unit := by
  rw [Overpriced, Nat.not_lt, Nat.le_div_iff_mul_le funded]

theorem not_overpriced_of_within (given : 0 < deposit side.other) (funded : 0 < pool side.other)
    (within : Within tolerance deposit pool side) : ¬ Overpriced tolerance deposit pool side := by
  rw [not_overpriced_iff funded]
  have below := tolerated_mul_le (unit - tolerance.atomics) (deposit side) (deposit side.other)
  refine Nat.le_of_mul_le_mul_right ?_ given
  calc tolerated _ _ _ * pool side.other * deposit side.other
      = tolerated _ _ _ * deposit side.other * pool side.other := Nat.mul_right_comm ..
    _ ≤ deposit side * (unit - tolerance.atomics) * pool side.other :=
        Nat.mul_le_mul_right _ below
    _ ≤ pool side * deposit side.other * unit := within
    _ = pool side * unit * deposit side.other := Nat.mul_right_comm ..

theorem nearlyWithin_of_not_overpriced (given : 0 < deposit side.other)
    (funded : 0 < pool side.other) (fair : ¬ Overpriced tolerance deposit pool side) :
    NearlyWithin tolerance deposit pool side := by
  rw [not_overpriced_iff funded] at fair
  have above := lt_tolerated_mul (Nat.sub_le unit tolerance.atomics) given (deposit side)
  unfold NearlyWithin
  generalize tolerated _ _ _ = rest at *
  calc deposit side * (unit - tolerance.atomics) * pool side.other
      < (rest + 2) * deposit side.other * pool side.other :=
        Nat.mul_lt_mul_of_pos_right above funded
    _ = rest * pool side.other * deposit side.other +
          2 * (deposit side.other * pool side.other) := by ring
    _ ≤ pool side * unit * deposit side.other + 2 * (deposit side.other * pool side.other) :=
        Nat.add_le_add_right (Nat.mul_le_mul_right _ fair) _
    _ = pool side * deposit side.other * unit + 2 * (deposit side.other * pool side.other) := by
        rw [Nat.mul_right_comm]

/-! ## The guard -/

theorem exceeds_of_empty {offered : Int} (legible : Legible offered) (kept : Fixed)
    (pool0 pool1 : Int) :
    exceeds kept offered 0 pool0 pool1 = .error (.degenerate (.ratioByZero offered)) := by
  have shown : (Fault.degenerate (.ratioByZero offered)).raised =
      .degenerate (.ratioByZero offered) :=
    raised_of_not_illegible (by simp [Fault.figures, Degeneracy.figures, legible])
  simp [exceeds, Fixed.ofRatio, shown]

theorem exceeds_eq_ok_iff {answer : Bool} {kept : Fixed} {offered paid pool0 pool1 : Nat} :
    exceeds kept offered paid pool0 pool1 = .ok answer ↔
      ((paid ≠ 0 ∧ paid ≤ wideMax) ∧ offered * unit ≤ wideMax) ∧
        (offered * unit / paid ≤ wideMax ∧ kept.atomics ≤ wideMax ∧
          offered * unit / paid * kept.atomics ≤ wideMax) ∧
        ((pool1 ≠ 0 ∧ pool1 ≤ wideMax) ∧ pool0 * unit ≤ wideMax) ∧
        answer = decide (pool0 * unit / pool1 < tolerated kept.atomics offered paid) := by
  simp only [exceeds, bind_eq_ok, Fixed.ofRatio_eq_ok_iff, Fixed.times_eq_ok_iff, pure_eq_ok]
  constructor
  · rintro ⟨_, ⟨paidRange, offeredRange, rfl⟩, _, ⟨productRange, rfl⟩, _,
      ⟨poolRange, otherRange, rfl⟩, rfl⟩
    exact ⟨⟨paidRange, offeredRange⟩, productRange, ⟨poolRange, otherRange⟩, rfl⟩
  · rintro ⟨⟨paidRange, offeredRange⟩, productRange, ⟨poolRange, otherRange⟩, rfl⟩
    exact ⟨_, ⟨paidRange, offeredRange, rfl⟩, _, ⟨productRange, rfl⟩, _,
      ⟨poolRange, otherRange, rfl⟩, rfl⟩

theorem exceeds_of_native (native : ∀ side, deposit side ≤ amountMax ∧ pool side ≤ amountMax)
    (given : 0 < deposit side.other) (funded : 0 < pool side.other) :
    exceeds ⟨unit - tolerance.atomics⟩ (deposit side) (deposit side.other) (pool side)
        (pool side.other) = .ok (decide (Overpriced tolerance deposit pool side)) := by
  obtain ⟨small, poolSmall⟩ := native side
  obtain ⟨otherSmall, otherPoolSmall⟩ := native side.other
  have part : unit - tolerance.atomics ≤ unit := Nat.sub_le _ _
  have price := Nat.div_le_self (deposit side * unit) (deposit side.other)
  rw [exceeds_eq_ok_iff]
  exact ⟨⟨⟨given.ne', otherSmall.trans amountMax_le_wideMax⟩, Fixed.mul_unit_le small⟩,
    ⟨price.trans (Fixed.mul_unit_le small), part.trans Fixed.unit_le_wideMax,
      (Nat.mul_le_mul price part).trans (Fixed.mul_unit_mul_unit_le small)⟩,
    ⟨⟨funded.ne', otherPoolSmall.trans amountMax_le_wideMax⟩, Fixed.mul_unit_le poolSmall⟩, rfl⟩

theorem check_eq_ok_iff :
    check tolerance (deposit .first) (deposit .second) (pool .first) (pool .second) = .ok () ↔
      tolerance.atomics ≤ unit ∧ ∀ side : Side,
        exceeds ⟨unit - tolerance.atomics⟩ (deposit side) (deposit side.other) (pool side)
          (pool side.other) = .ok false := by
  rw [check, Fixed.one_minus]
  split
  · rename_i beyond
    simp [Nat.not_le.2 beyond]
  · rename_i part
    rw [ok_bind, and_iff_right (Nat.not_lt.1 part)]
    constructor
    · intro passed
      obtain ⟨first, compared, passed⟩ := bind_eq_ok.1 passed
      cases first
      · obtain ⟨second, comparedToo, passed⟩ := bind_eq_ok.1 passed
        cases second
        · intro side
          cases side with
          | first => exact compared
          | second => exact comparedToo
        · cases passed
      · cases passed
    · intro fair
      have first := fair .first
      have second := fair .second
      simp only [Side.other] at first second
      simp [first, second]

theorem raised_ratioDifference (tolerance : Fixed) :
    (Fault.overflow (.ratioDifference .one tolerance)).raised =
      if Legible tolerance.whole then .overflow (.ratioDifference .one tolerance)
      else .badValue .illegible := by
  have one : Legible Fixed.one.whole := Fixed.legible_whole Fixed.unit_le_wideMax
  by_cases shown : Legible tolerance.whole
  · rw [if_pos shown]
    exact raised_of_not_illegible (by simp [Fault.figures, Overflow.figures, one, shown])
  · rw [if_neg shown]
    exact Fault.raised_of_illegible (by simp [Fault.figures, Overflow.figures]) shown

theorem raised_slippage (native : ∀ side, deposit side ≤ amountMax ∧ pool side ≤ amountMax)
    (part : tolerance.atomics ≤ unit) :
    (Fault.slippage tolerance (deposit .first) (deposit .second) (pool .first)
        (pool .second)).raised =
      .slippage tolerance (deposit .first) (deposit .second) (pool .first) (pool .second) := by
  have shown : Legible tolerance.whole := Fixed.legible_whole (part.trans Fixed.unit_le_wideMax)
  have deposits (side : Side) : Legible (deposit side) := legible_of_le_amountMax (native side).1
  have pools (side : Side) : Legible (pool side) := legible_of_le_amountMax (native side).2
  exact raised_of_not_illegible (by simp [Fault.figures, shown, deposits, pools])

theorem check_of_native (tolerance : Fixed) (deposit pool : Side → Nat)
    (native : ∀ side, deposit side ≤ amountMax ∧ pool side ≤ amountMax)
    (funded : ∀ side, 0 < pool side) :
    check tolerance (deposit .first) (deposit .second) (pool .first) (pool .second) =
      if unit < tolerance.atomics then
        .error (if Legible tolerance.whole then .overflow (.ratioDifference .one tolerance)
          else .badValue .illegible)
      else if deposit .second = 0 then .error (.degenerate (.ratioByZero (deposit .first)))
      else if deposit .first = 0 then .error (.degenerate (.ratioByZero (deposit .second)))
      else if Overpriced tolerance deposit pool .first ∨ Overpriced tolerance deposit pool .second
      then .error (.slippage tolerance (deposit .first) (deposit .second) (pool .first)
        (pool .second))
      else .ok () := by
  have legible (side : Side) : Legible (deposit side) := legible_of_le_amountMax (native side).1
  rw [check, Fixed.one_minus, raised_ratioDifference]
  split
  · rw [error_bind]
  rename_i part
  rw [ok_bind]
  by_cases none1 : deposit .second = 0
  · simp [none1, exceeds_of_empty (legible .first)]
  have first : exceeds ⟨unit - tolerance.atomics⟩ (deposit .first) (deposit .second) (pool .first)
      (pool .second) = .ok (decide (Overpriced tolerance deposit pool .first)) :=
    exceeds_of_native native (Nat.pos_of_ne_zero none1) (funded _)
  rw [first, ok_bind, if_neg none1]
  by_cases none0 : deposit .first = 0
  · -- A deposit of nothing is not overpriced, so the guard goes on to the other direction.
    have fair : ¬ Overpriced tolerance deposit pool .first := by
      simp [Overpriced, tolerated, none0]
    simp [fair, none0, exceeds_of_empty (legible .second)]
  have second : exceeds ⟨unit - tolerance.atomics⟩ (deposit .second) (deposit .first)
      (pool .second) (pool .first) = .ok (decide (Overpriced tolerance deposit pool .second)) :=
    exceeds_of_native native (Nat.pos_of_ne_zero none0) (funded _)
  rw [second, ok_bind, if_neg none0, raised_slippage native (Nat.not_lt.1 part)]
  by_cases dear : Overpriced tolerance deposit pool .first
  · simp [dear]
  · simp [dear]

theorem code_of_native (tolerance : Fixed) (deposit pool : Side → Nat)
    (native : ∀ side, deposit side ≤ amountMax ∧ pool side ≤ amountMax)
    (funded : ∀ side, 0 < pool side) :
    (check tolerance (deposit .first) (deposit .second) (pool .first) (pool .second)).mapError
        Fault.code? =
      if unit < tolerance.atomics then
        .error (if Legible tolerance.whole then some "arithmetic_overflow" else none)
      else if deposit .first = 0 ∨ deposit .second = 0 then .error (some "degenerate_state")
      else if Overpriced tolerance deposit pool .first ∨ Overpriced tolerance deposit pool .second
      then .error (some "slippage_exceeded")
      else .ok () := by
  rw [check_of_native tolerance deposit pool native funded]
  by_cases beyond : unit < tolerance.atomics
  · rw [if_pos beyond, if_pos beyond]
    split <;> rfl
  rw [if_neg beyond, if_neg beyond]
  by_cases none1 : deposit .second = 0
  · rw [if_pos none1, if_pos (.inr none1)]
    rfl
  by_cases none0 : deposit .first = 0
  · rw [if_neg none1, if_pos none0, if_pos (.inl none0)]
    rfl
  rw [if_neg none1, if_neg none0, if_neg (not_or.2 ⟨none0, none1⟩)]
  split <;> rfl

/-- The two sides play the same part. -/
theorem code_exchange (native : ∀ side, deposit side ≤ amountMax ∧ pool side ≤ amountMax)
    (funded : ∀ side, 0 < pool side) :
    (check tolerance (deposit .second) (deposit .first) (pool .second) (pool .first)).mapError
        Fault.code? =
      (check tolerance (deposit .first) (deposit .second) (pool .first) (pool .second)).mapError
        Fault.code? := by
  have turned := code_of_native tolerance (deposit ∘ Side.other) (pool ∘ Side.other)
    (fun side => native side.other) (fun side => funded side.other)
  have sides : Overpriced tolerance (deposit ∘ Side.other) (pool ∘ Side.other) .first ∨
      Overpriced tolerance (deposit ∘ Side.other) (pool ∘ Side.other) .second ↔
        Overpriced tolerance deposit pool .first ∨ Overpriced tolerance deposit pool .second :=
    or_comm
  have nothing : deposit .second = 0 ∨ deposit .first = 0 ↔
      deposit .first = 0 ∨ deposit .second = 0 := or_comm
  simp only [Function.comp_apply, Side.other, sides, nothing] at turned
  rw [turned, code_of_native tolerance deposit pool native funded]

theorem nearlyWithin_of_check (funded : ∀ side, 0 < pool side)
    (passed : check tolerance (deposit .first) (deposit .second) (pool .first) (pool .second) =
      .ok ()) (side : Side) : NearlyWithin tolerance deposit pool side := by
  obtain ⟨-, compared⟩ := check_eq_ok_iff.1 passed
  obtain ⟨⟨⟨given, -⟩, -⟩, -, -, fair⟩ := exceeds_eq_ok_iff.1 (compared side)
  exact nearlyWithin_of_not_overpriced (Nat.pos_of_ne_zero given) (funded _)
    (of_decide_eq_false fair.symm)

def asked (tolerance : Fixed) (deposit pool : Side → Nat) : Except Fault Unit :=
  Request.checkSlippage tolerance (.int (deposit .first)) (.int (deposit .second))
    (.int (pool .first)) (.int (pool .second))

theorem asked_eq_check (tolerance : Fixed) (deposit pool : Side → Nat) :
    asked tolerance deposit pool =
      check tolerance (deposit .first) (deposit .second) (pool .first) (pool .second) :=
  Request.checkSlippage_int _ _ _ _ _

/-- What the answer of the guard says of a deposit. -/
structure Guards (tolerance : Fixed) (deposit pool : Side → Nat) (answer : Except Fault Unit) :
    Prop where
  excessive : unit < tolerance.atomics → Legible tolerance.whole →
    ∃ cause, answer = .error (.overflow cause)
  illegible : ¬ Legible tolerance.whole → answer = .error (.badValue .illegible)
  empty : tolerance.atomics ≤ unit → (∃ side, deposit side = 0) →
    ∃ cause, answer = .error (.degenerate cause)
  passes : tolerance.atomics ≤ unit → (∀ side, 0 < deposit side) →
    (∀ side, Within tolerance deposit pool side) → answer = .ok ()
  bounded : answer = .ok () → ∀ side, NearlyWithin tolerance deposit pool side
  decided : tolerance.atomics ≤ unit → (∀ side, 0 < deposit side) →
    answer = .ok () ∨ answer = .error (.slippage tolerance (deposit .first) (deposit .second)
      (pool .first) (pool .second))

theorem guards_of_native (native : ∀ side, deposit side ≤ amountMax ∧ pool side ≤ amountMax)
    (funded : ∀ side, 0 < pool side) :
    Guards tolerance deposit pool (asked tolerance deposit pool) := by
  rw [asked_eq_check]
  have verdict := check_of_native tolerance deposit pool native funded
  constructor
  case excessive =>
    intro excessive legible
    rw [verdict, if_pos excessive, if_pos legible]
    exact ⟨_, rfl⟩
  case illegible =>
    intro long
    have excessive : unit < tolerance.atomics := Nat.not_le.1 fun part =>
      long (Fixed.legible_whole (part.trans Fixed.unit_le_wideMax))
    rw [verdict, if_pos excessive, if_neg long]
  case empty =>
    rintro part ⟨side, nothing⟩
    rw [verdict, if_neg (Nat.not_lt.2 part)]
    by_cases none1 : deposit .second = 0
    · rw [if_pos none1]
      exact ⟨_, rfl⟩
    · cases side with
      | first =>
        rw [if_neg none1, if_pos nothing]
        exact ⟨_, rfl⟩
      | second => exact absurd nothing none1
  case passes =>
    intro part given within
    have fair (side : Side) : ¬ Overpriced tolerance deposit pool side :=
      not_overpriced_of_within (given _) (funded _) (within side)
    rw [verdict, if_neg (Nat.not_lt.2 part), if_neg (given _).ne', if_neg (given _).ne',
      if_neg (not_or.2 ⟨fair _, fair _⟩)]
  case bounded => exact nearlyWithin_of_check funded
  case decided =>
    intro part given
    rw [verdict, if_neg (Nat.not_lt.2 part), if_neg (given _).ne', if_neg (given _).ne']
    split
    · exact .inr rfl
    · exact .inl rfl

end VeiledPool.Slippage
