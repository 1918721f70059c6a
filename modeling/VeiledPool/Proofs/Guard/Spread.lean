import VeiledPool.Guard.Spread
import VeiledPool.Proofs.Curve.Failure
import VeiledPool.Proofs.Fault.Objection
import VeiledPool.Proofs.Fixed.Natural

/-! # What a bound refuses

A bound compares the outputs of a swap with what its caller hoped for. On amounts
of 128 bits none of the ratios in between can fail, so what is left is one
comparison of natural numbers for each bound.
-/

namespace VeiledPool.SpreadBound

/-- What an offer would buy at a believed price, which is inverted first. -/
def believed (price : Fixed) (offer : Nat) : Nat :=
  offer * (Fixed.unit * Fixed.unit / price.atomics) / Fixed.unit

/-- What a bound has against a swap that pays `returned` net and `gross` before
    commission, and would pay `marginal` at the price before the swap. -/
def objection? (offer returned gross marginal : Nat) : SpreadBound → Option Objection
  | .expectedReturn expected =>
    Objection.raised (returned < expected) (Objection.legibly
      { code := "return_below_expected"
        fault := .belowExpected (.int returned) (.int expected) })
  | .beliefPrice price limit =>
    let expected := believed price offer
    Objection.raised (price.atomics = 0)
      { code := "degenerate_state", fault := .degenerate .reciprocalOfZero } <|>
    Objection.raised (gross < expected ∧ limit.atomics < (expected - gross) * Fixed.unit / expected)
      { code := "spread_exceeded", fault := .beliefSpread expected gross limit }
  | .maxSpread limit =>
    Objection.raised (marginal = 0) { code := "degenerate_state", fault := .degenerate .noOutput } <|>
    Objection.raised (limit.atomics < (marginal - gross) * Fixed.unit / marginal)
      { code := "spread_exceeded", fault := .spread (marginal - gross : Nat) marginal limit }
  | .unbounded => none

variable {offer returned commission spread : Nat} {price limit : Fixed}

theorem refuse_beyond (share : Nat) (objection : Objection)
    (legible : limit.atomics < share → ¬ Illegible objection.fault.figures) :
    (if limit < (⟨share⟩ : Fixed) then .error objection.fault.raised else .ok () :
        Except Fault Unit) =
      Objection.barring (Objection.raised (limit.atomics < share) objection) () := by
  rw [Objection.barring_raised]
  by_cases beyond : limit < (⟨share⟩ : Fixed)
  · have above := (Fixed.lt_def _ _).1 beyond
    rw [if_pos beyond, if_pos above, raised_of_not_illegible (legible above)]
  · rw [if_neg beyond, if_neg (mt (Fixed.lt_def limit ⟨share⟩).2 beyond)]

theorem legible_limit {part total : Nat} (within : part ≤ total)
    (beyond : limit.atomics < part * Fixed.unit / total) : Legible limit.whole := by
  have share : part * Fixed.unit / total ≤ Fixed.unit :=
    Nat.div_le_of_le_mul (Nat.mul_le_mul_right _ within)
  exact Fixed.legible_whole ((beyond.le.trans share).trans Fixed.unit_le_wideMax)

theorem check_beliefPrice (offerSmall : offer ≤ amountMax) (priceSmall : price.atomics ≤ wideMax) :
    (beliefPrice price limit).check offer returned commission spread =
      Objection.barring ((beliefPrice price limit).objection? offer returned
        (returned + commission) (returned + commission + spread)) () := by
  unfold check objection?
  by_cases zero : price.atomics = 0
  · simp [Objection.raised, Objection.barring, Fixed.reciprocal, zero]
  rw [Objection.barring_of_none (Objection.raised_eq_none_iff.2 zero)]
  have product : offer * (Fixed.unit * Fixed.unit / price.atomics) ≤ wideMax := by
    refine le_trans (Nat.mul_le_mul_left _ (Nat.div_le_self _ _)) ?_
    rw [← Nat.mul_assoc]
    exact Fixed.mul_unit_mul_unit_le offerSmall
  have inverse := Fixed.reciprocal_eq_ok_iff.2 ⟨⟨zero, priceSmall⟩, rfl⟩
  have expected : Fixed.scale ⟨Fixed.unit * Fixed.unit / price.atomics⟩ offer =
      .ok (believed price offer : Nat) := Fixed.scale_eq_ok_iff.2
    ⟨⟨offerSmall.trans amountMax_le_wideMax,
      (Nat.div_le_self _ _).trans Fixed.unit_sq_le_wideMax,
      product⟩, rfl⟩
  -- What is expected is this product over one, so it fits when it is scaled up again.
  have worth : believed price offer * Fixed.unit ≤ wideMax :=
    (Nat.div_mul_le_self _ _).trans product
  have sum : (returned : Int) + commission = (returned + commission : Nat) := by push_cast; rfl
  simp only [inverse, expected, ok_bind, sum, Curve.excess_natCast]
  by_cases short : returned + commission < believed price offer
  · have lacking : (believed price offer - (returned + commission)) * Fixed.unit ≤ wideMax :=
      (Nat.mul_le_mul_right _ (Nat.sub_le _ _)).trans worth
    have share := Fixed.ofRatio_eq_ok_iff.2 ⟨⟨(Nat.zero_lt_of_lt short).ne',
      (Nat.le_mul_of_pos_right _ Fixed.unit_pos).trans worth⟩, lacking, rfl⟩
    have shortfall : ((returned + commission : Nat) : Int) < (believed price offer : Nat) := by
      exact_mod_cast short
    simp only [short, shortfall, if_true, true_and, share, ok_bind]
    refine refuse_beyond _ { code := "spread_exceeded", fault := .beliefSpread _ _ _ } fun beyond => ?_
    have worthSmall := (Nat.le_mul_of_pos_right _ Fixed.unit_pos).trans worth
    have expectedLegible := legible_of_le_wideMax worthSmall
    have grossLegible := legible_of_le_wideMax (short.le.trans worthSmall)
    have limitLegible := legible_limit (Nat.sub_le _ _) beyond
    exact not_illegible_iff.2 (by
      simp only [Fault.figures, List.forall_mem_cons]
      exact ⟨expectedLegible, grossLegible, limitLegible, by simp⟩)
  · have enough : ¬ ((returned + commission : Nat) : Int) < (believed price offer : Nat) := by
      exact_mod_cast short
    rw [if_neg enough, Objection.barring_raised, if_neg fun both => short both.1]

theorem check_maxSpread (spreadSmall : spread ≤ amountMax)
    (totalSmall : returned + commission + spread ≤ wideMax) :
    (maxSpread limit).check offer returned commission spread =
      Objection.barring ((maxSpread limit).objection? offer returned
        (returned + commission) (returned + commission + spread)) () := by
  unfold check objection?
  have sum : (returned : Int) + commission + spread = (returned + commission + spread : Nat) := by
    push_cast
    rfl
  have lost : returned + commission + spread - (returned + commission) = spread :=
    Nat.add_sub_cancel_left ..
  simp only [sum, lost]
  by_cases none : returned + commission + spread = 0
  · simp only [none, Int.natCast_zero, if_true, Objection.raised, Objection.barring]
    rfl
  · have nonzero : ¬ ((returned + commission + spread : Nat) : Int) = 0 := by exact_mod_cast none
    have share := Fixed.ofRatio_eq_ok_iff.2
      ⟨⟨none, totalSmall⟩, Fixed.mul_unit_le spreadSmall, rfl⟩
    rw [if_neg nonzero, share, ok_bind,
      Objection.barring_of_none (Objection.raised_eq_none_iff.2 none)]
    refine refuse_beyond _ { code := "spread_exceeded", fault := .spread _ _ _ } fun beyond => ?_
    have lostLegible := legible_of_le_amountMax spreadSmall
    have totalLegible := legible_of_le_wideMax totalSmall
    have limitLegible := legible_limit (Nat.le_add_left _ _) beyond
    exact not_illegible_iff.2 (by
      simp only [Fault.figures, List.forall_mem_cons]
      exact ⟨lostLegible, totalLegible, limitLegible, by simp⟩)

/-- A bound has something against a swap or lets it pass; it never fails to decide. -/
theorem check_eq (bound : SpreadBound) (offerSmall : offer ≤ amountMax)
    (spreadSmall : spread ≤ amountMax) (totalSmall : returned + commission + spread ≤ wideMax)
    (priceSmall : ∀ price limit, bound = beliefPrice price limit → price.atomics ≤ wideMax) :
    bound.check offer returned commission spread =
      Objection.barring (bound.objection? offer returned (returned + commission)
        (returned + commission + spread)) () := by
  cases bound with
  | expectedReturn expected =>
    rw [objection?, Objection.barring_raised, Objection.fault_legibly]
    rfl
  | beliefPrice price limit => exact check_beliefPrice offerSmall (priceSmall price limit rfl)
  | maxSpread limit => exact check_maxSpread spreadSmall totalSmall
  | unbounded => rfl

end VeiledPool.SpreadBound
