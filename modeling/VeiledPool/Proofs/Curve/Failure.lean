import VeiledPool.Curve.Quote
import VeiledPool.Proofs.Curve.Fill
import VeiledPool.Proofs.Fixed.Natural
import VeiledPool.Proofs.Wide.Range

/-! # Why pricing fails

Pricing can be refused for a number that is out of range, for a ratio that does not
exist, or for an operand that cannot be written out, and for nothing else.
-/

namespace VeiledPool

inductive Fault.Arithmetic : Fault → Prop where
  | overflow (cause : Overflow) : Arithmetic (.overflow cause)
  | degenerate (cause : Degeneracy) : Arithmetic (.degenerate cause)

/-- What pricing raises for some operands: an arithmetic fault, or an illegible value where
    one of them cannot be written out. -/
def Fault.ArithmeticOn (operands : List Int) (fault : Fault) : Prop :=
  fault.Arithmetic ∨ Illegible operands ∧ fault = .badValue .illegible

namespace Fault.ArithmeticOn

variable {operands : List Int} {fault : Fault}

theorem overflow (cause : Overflow) : (Fault.overflow cause).ArithmeticOn operands :=
  .inl (.overflow cause)

theorem degenerate (cause : Degeneracy) : (Fault.degenerate cause).ArithmeticOn operands :=
  .inl (.degenerate cause)

theorem illegible (illegible : Illegible operands) :
    (Fault.badValue .illegible).ArithmeticOn operands :=
  .inr ⟨illegible, rfl⟩

theorem arithmetic (fails : fault.ArithmeticOn operands) (legible : ¬ Illegible operands) :
    fault.Arithmetic :=
  fails.resolve_right fun illegible => legible illegible.1

end Fault.ArithmeticOn

section Steps

variable {allowed : Fault → Prop} (overflows : ∀ cause, allowed (.overflow cause))
  (degenerates : ∀ cause, allowed (.degenerate cause)) {value : Int}

theorem inRange_excess {a b : Int} (inRange : Wide.InRange a) (positive : 0 ≤ b) :
    Wide.InRange (excess a b) := by
  obtain ⟨lower, upper⟩ := inRange
  unfold excess
  split <;> constructor <;> omega

namespace Fixed

variable {a b ratio : Fixed} {numerator denominator amount : Int}

include overflows degenerates in
theorem failsOnly_ofRatio
    (illegibles : Illegible [numerator, denominator] → allowed (.badValue .illegible)) :
    FailsOnly allowed (ofRatio numerator denominator) := by
  unfold ofRatio
  split
  · exact failsOnly_raised (degenerates _) fun long => illegibles
      (long.of_covered (by simp [Fault.figures, Degeneracy.figures]))
  · exact failsOnly_bind (Wide.failsOnly_require overflows illegibles) fun _ => failsOnly_ok _

include overflows in
theorem failsOnly_minus
    (illegibles : Illegible [a.whole, b.whole] → allowed (.badValue .illegible)) :
    FailsOnly allowed (a.minus b) := by
  unfold minus
  exact failsOnly_bind (Wide.failsOnly_require overflows illegibles) fun _ => failsOnly_ok _

include overflows degenerates in
theorem failsOnly_reciprocal
    (illegibles : Illegible [a.whole] → allowed (.badValue .illegible)) :
    FailsOnly allowed a.reciprocal := by
  unfold reciprocal
  split
  · exact failsOnly_error (degenerates _)
  · exact failsOnly_bind (Wide.failsOnly_require overflows illegibles) fun _ => failsOnly_ok _

include overflows in
theorem failsOnly_scale
    (illegibles : Illegible [amount, a.whole] → allowed (.badValue .illegible)) :
    FailsOnly allowed (a.scale amount) := by
  unfold scale
  exact Wide.failsOnly_require overflows illegibles

theorem atomics_le_of_inRange {atomics : Int} (inRange : Wide.InRange atomics) :
    (⟨atomics.toNat⟩ : Fixed).atomics ≤ wideMax := by
  have small := inRange.2
  exact Int.toNat_le.2 small

theorem atomics_le_of_ofRatio (made : ofRatio numerator denominator = .ok ratio) :
    ratio.atomics ≤ wideMax := by
  unfold ofRatio at made
  split at made
  · cases made
  · obtain ⟨atomics, answered, made⟩ := bind_eq_ok.1 made
    cases made
    exact atomics_le_of_inRange (.of_proportion answered)

theorem atomics_le_of_minus (made : a.minus b = .ok ratio) : ratio.atomics ≤ wideMax := by
  obtain ⟨atomics, answered, made⟩ := bind_eq_ok.1 made
  cases made
  exact atomics_le_of_inRange (Wide.InRange.of_require (Wide.confined_sub _ _) answered)

theorem atomics_le_of_reciprocal (made : a.reciprocal = .ok ratio) : ratio.atomics ≤ wideMax := by
  unfold reciprocal at made
  split at made
  · cases made
  · obtain ⟨atomics, answered, made⟩ := bind_eq_ok.1 made
    cases made
    exact atomics_le_of_inRange (Wide.InRange.of_require
      (Wide.confined_div (Wide.confined_lift _) (Wide.confined_lift _)) answered)

theorem inRange_of_scale (scaled : a.scale amount = .ok value) : Wide.InRange value :=
  .of_proportion scaled

end Fixed

end Steps

namespace Curve

variable {allowed : Fault → Prop} {offerPool askPool : Nat} {rate : CommissionRate}

theorem failsOnly_fill {offer : Nat} (overflows : ∀ cause, allowed (.overflow cause))
    (empties : offerPool = 0 ∨ askPool = 0 → ∀ cause, allowed (.degenerate cause))
    (illegibles : Illegible [offerPool, askPool, offer, rate.nom, rate.denom] →
      allowed (.badValue .illegible)) :
    FailsOnly allowed (fill offerPool askPool offer rate) := by
  have shows {figures : List Int} (covered : ∀ figure ∈ figures,
      Legible figure ∨ figure ∈ [(offerPool : Int), askPool, offer, rate.nom, rate.denom])
      (long : Illegible figures) := illegibles (long.of_covered covered)
  unfold fill
  split
  · rename_i empty
    exact failsOnly_raised (empties empty _) (shows (by simp [Fault.figures, Degeneracy.figures]))
  refine failsOnly_bind_of_ok (Wide.failsOnly_require overflows
    (shows (by simp [Overflow.figures]))) fun product multiplied => ?_
  have productLegible := (Wide.InRange.of_require (Wide.confined_mul _ _) multiplied).legible
  refine failsOnly_bind_of_ok (Wide.failsOnly_require overflows
    (shows (by simp [Overflow.figures, productLegible]))) fun gross grossed => ?_
  have grossInRange := Wide.InRange.of_require (Wide.confined_sub _ _) grossed
  have grossLegible := grossInRange.legible
  refine failsOnly_bind_of_ok (Wide.failsOnly_require overflows
    (shows (by simp [Overflow.figures]))) fun marginal priced => ?_
  have marginalInRange := Wide.InRange.of_proportion priced
  refine failsOnly_bind_of_ok (Wide.failsOnly_require overflows
    (shows (by simp [Overflow.figures, grossLegible]))) fun fee charged => ?_
  have feeInRange := Wide.InRange.of_proportion charged
  refine failsOnly_bind_of_ok (Wide.failsOnly_require overflows
    (shows (by simp [Overflow.figures, grossLegible, feeInRange.legible]))) fun net netted => ?_
  have netInRange := Wide.InRange.of_require (Wide.confined_sub _ _) netted
  have spreadInRange := inRange_excess marginalInRange grossInRange.1
  refine failsOnly_bind (netInRange.failsOnly_narrow overflows) fun returned => ?_
  refine failsOnly_bind (spreadInRange.failsOnly_narrow overflows) fun spread => ?_
  refine failsOnly_bind (feeInRange.failsOnly_narrow overflows) fun commission => ?_
  exact failsOnly_ok _

theorem failsOnly_guardedFill {offer : Nat} (overflows : ∀ cause, allowed (.overflow cause))
    (degenerates : ∀ cause, allowed (.degenerate cause))
    (illegibles : Illegible [offerPool, askPool, offer, rate.nom, rate.denom] →
      allowed (.badValue .illegible)) :
    FailsOnly allowed (guardedFill offerPool askPool offer rate) := by
  rw [guardedFill_eq_fill]
  exact failsOnly_fill overflows (fun _ => degenerates) illegibles

theorem failsOnly_quote {ask : Nat} (overflows : ∀ cause, allowed (.overflow cause))
    (degenerates : ∀ cause, allowed (.degenerate cause))
    (illegibles : Illegible [offerPool, askPool, ask, rate.nom, rate.denom] →
      allowed (.badValue .illegible)) :
    FailsOnly allowed (quote offerPool askPool ask rate) := by
  have shows {figures : List Int} (covered : ∀ figure ∈ figures,
      Legible figure ∨ figure ∈ [(offerPool : Int), askPool, ask, rate.nom, rate.denom])
      (long : Illegible figures) := illegibles (long.of_covered covered)
  unfold quote
  split
  · exact failsOnly_raised (degenerates _) (shows (by simp [Fault.figures, Degeneracy.figures]))
  refine failsOnly_bind_of_ok (Wide.failsOnly_require overflows
    (shows (by simp [Overflow.figures]))) fun product multiplied => ?_
  have productLegible := (Wide.InRange.of_require (Wide.confined_mul _ _) multiplied).legible
  refine failsOnly_bind_of_ok (Fixed.failsOnly_ofRatio overflows degenerates
    (shows (by simp))) fun fee charged => ?_
  have feeLegible := Fixed.legible_whole (Fixed.atomics_le_of_ofRatio charged)
  have oneLegible : Legible Fixed.one.whole := Fixed.legible_whole Fixed.unit_le_wideMax
  refine failsOnly_bind_of_ok (Fixed.failsOnly_minus overflows
    (shows (by simp [feeLegible, oneLegible]))) fun net lessened => ?_
  have netLegible := Fixed.legible_whole (Fixed.atomics_le_of_minus lessened)
  refine failsOnly_bind_of_ok (Fixed.failsOnly_reciprocal overflows degenerates
    (shows (by simp [netLegible]))) fun grossUp inverted => ?_
  have grossUpLegible := Fixed.legible_whole (Fixed.atomics_le_of_reciprocal inverted)
  refine failsOnly_bind_of_ok (Fixed.failsOnly_scale overflows
    (shows (by simp [grossUpLegible]))) fun before grossed => ?_
  have beforeInRange := Fixed.inRange_of_scale grossed
  have beforeLegible := beforeInRange.legible
  split
  · exact failsOnly_raised (degenerates _)
      (shows (by simp [Fault.figures, Degeneracy.figures, beforeLegible]))
  refine failsOnly_bind_of_ok (Wide.failsOnly_require overflows
    (shows (by simp [Overflow.figures, productLegible, beforeLegible]))) fun offer required => ?_
  have offerInRange := Wide.InRange.of_require (Wide.confined_sub _ _) required
  refine failsOnly_bind_of_ok (Fixed.failsOnly_ofRatio overflows degenerates
    (shows (by simp))) fun price priced => ?_
  have priceLegible := Fixed.legible_whole (Fixed.atomics_le_of_ofRatio priced)
  refine failsOnly_bind_of_ok (Fixed.failsOnly_scale overflows
    (shows (by simp [offerInRange.legible, priceLegible]))) fun atPrice valued => ?_
  refine failsOnly_bind_of_ok (Fixed.failsOnly_scale overflows
    (shows (by simp [beforeLegible, feeLegible]))) fun kept commissioned => ?_
  have spreadInRange := inRange_excess (Fixed.inRange_of_scale valued) beforeInRange.1
  have keptInRange := Fixed.inRange_of_scale commissioned
  refine failsOnly_bind (offerInRange.failsOnly_narrow overflows) fun offer => ?_
  refine failsOnly_bind (spreadInRange.failsOnly_narrow overflows) fun spread => ?_
  refine failsOnly_bind (keptInRange.failsOnly_narrow overflows) fun commission => ?_
  exact failsOnly_ok _

end Curve

end VeiledPool
