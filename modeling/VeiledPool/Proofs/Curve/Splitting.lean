import Mathlib.Tactic.Ring
import VeiledPool.Proofs.Curve.Fill

/-! # Split orders

An order may be sold in parts, one after the other, each of them on the reserves
that the parts before it left and at a rate of its own. However it is split, the
parts return no more than the gross output of the whole. What a part leaves in the
pool, its commission and what is rounded off, never comes back to the parts after
it.
-/

namespace VeiledPool.Curve

structure Part where
  offer : Nat
  rate : CommissionRate

/-- The fills of parts of an order, each on the reserves that the one before it left. -/
def fillAll (offerPool askPool : Nat) : List Part → Except Fault (List Fill)
  | [] => .ok []
  | part :: rest => do
    let first ← fill offerPool askPool part.offer part.rate
    let later ← fillAll first.newOfferPool first.newAskPool rest
    pure (first :: later)

def totalOffered (parts : List Part) : Nat :=
  (parts.map Part.offer).sum

def totalReturned (fills : List Fill) : Nat :=
  (fills.map Fill.returned).sum

variable {offerPool askPool offer offeredLater returnedLater : Nat} {rate : CommissionRate}
  {fill : Fill} {parts : List Part} {fills : List Fill}

theorem left_of_fill (filled : Curve.fill offerPool askPool offer rate = .ok fill) :
    fill.newOfferPool = offerPool + offer ∧ fill.newAskPool + fill.returned = askPool ∧
      fill.returned * (offerPool + offer) ≤ askPool * offer := by
  obtain ⟨⟨offerFunded, askFunded⟩, -, rfl⟩ := fill_eq_ok_iff.1 filled
  have paid : (exactFill offerPool askPool offer rate).returned ≤ gross offerPool askPool offer :=
    returned_le_gross rate
  refine ⟨rfl, ?_, ?_⟩
  · exact Nat.sub_add_cancel (paid.trans (gross_lt offerFunded askFunded offer).le)
  · exact (Nat.mul_le_mul_right _ paid).trans (gross_mul_le offerPool askPool offer)

/-- What the curve allows after a fill, together with what was returned by it, is no more than
    what the curve allowed before. -/
theorem add_returned_mul_le (filled : Curve.fill offerPool askPool offer rate = .ok fill)
    (later : returnedLater * (fill.newOfferPool + offeredLater) ≤
      fill.newAskPool * offeredLater) :
    (fill.returned + returnedLater) * (offerPool + (offer + offeredLater)) ≤
      askPool * (offer + offeredLater) := by
  obtain ⟨offered, left, first⟩ := left_of_fill filled
  rw [offered] at later
  calc (fill.returned + returnedLater) * (offerPool + (offer + offeredLater))
      = fill.returned * (offerPool + offer) + fill.returned * offeredLater +
          returnedLater * (offerPool + offer + offeredLater) := by ring
    _ ≤ askPool * offer + fill.returned * offeredLater + fill.newAskPool * offeredLater :=
        Nat.add_le_add (Nat.add_le_add_right first _) later
    _ = askPool * (offer + offeredLater) := by rw [← left]; ring

theorem totalReturned_mul_le (filled : fillAll offerPool askPool parts = .ok fills) :
    totalReturned fills * (offerPool + totalOffered parts) ≤ askPool * totalOffered parts := by
  induction parts generalizing offerPool askPool fills with
  | nil =>
    cases filled
    exact Nat.le_of_eq (Nat.zero_mul _)
  | cons part rest ih =>
    simp only [fillAll, bind_eq_ok, pure_eq_ok] at filled
    obtain ⟨first, filledFirst, later, filledLater, rfl⟩ := filled
    exact add_returned_mul_le filledFirst (ih filledLater)

/-- However an order is split, and at whatever rates, its parts return no more than the gross
    output of the whole, which a fill of the whole pays out but for its commission. -/
theorem split_never_beats_curve (offerPool askPool : Nat) (parts : List Part) (fills : List Fill)
    (funded : 1 ≤ offerPool ∧ 1 ≤ askPool)
    (filled : fillAll offerPool askPool parts = .ok fills) :
    totalReturned fills ≤ askPool * totalOffered parts / (offerPool + totalOffered parts) ∧
      ∀ rate whole, Curve.fill offerPool askPool (totalOffered parts) rate = .ok whole →
        whole.returned + whole.commission =
            askPool * totalOffered parts / (offerPool + totalOffered parts) ∧
          (rate.nom = 0 → totalReturned fills ≤ whole.returned) := by
  have bounded : totalReturned fills ≤
      askPool * totalOffered parts / (offerPool + totalOffered parts) :=
    (Nat.le_div_iff_mul_le (Nat.add_pos_left funded.1 _)).2 (totalReturned_mul_le filled)
  refine ⟨bounded, fun rate whole filledWhole => ?_⟩
  obtain ⟨-, -, rfl⟩ := fill_eq_ok_iff.1 filledWhole
  have paid : (exactFill offerPool askPool (totalOffered parts) rate).returned +
      (exactFill offerPool askPool (totalOffered parts) rate).commission =
        askPool * totalOffered parts / (offerPool + totalOffered parts) :=
    returned_add_commission rate
  refine ⟨paid, fun free => ?_⟩
  have uncharged : (exactFill offerPool askPool (totalOffered parts) rate).commission = 0 := by
    simp [exactFill, CommissionRate.feeOn, free]
  rw [← paid, uncharged] at bounded
  exact bounded

def sampleFree : CommissionRate :=
  ⟨0, 1, by decide, by decide⟩

/-- Small parts of which the pool keeps nothing, a few and all, around a large one of which it
    keeps a third. -/
def sampleParts : List Part :=
  [⟨1, sampleFree⟩, ⟨1, .standard⟩, ⟨500, ⟨1, 3, by decide, by decide⟩⟩,
    ⟨1, ⟨1, 1, by decide, by decide⟩⟩, ⟨40, sampleFree⟩]

theorem split_never_beats_curve_sample :
    (1 ≤ 1000 ∧ 1 ≤ 777777) ∧ totalOffered sampleParts = 543 ∧
      ∃ fills whole, fillAll 1000 777777 sampleParts = .ok fills ∧
        Curve.fill 1000 777777 543 sampleFree = .ok whole ∧
        totalReturned fills = 189471 ∧ whole.returned = 273708 ∧
        totalReturned fills ≤ 777777 * 543 / (1000 + 543) ∧
        totalReturned fills ≤ whole.returned := by
  have answered : totalReturned <$> fillAll 1000 777777 sampleParts = .ok 189471 := by
    decide +kernel
  obtain ⟨fills, filled, returned⟩ := map_eq_ok.1 answered
  have filledWhole : Curve.fill 1000 777777 543 sampleFree =
      .ok (exactFill 1000 777777 543 sampleFree) := by decide +kernel
  have funded : 1 ≤ 1000 ∧ 1 ≤ 777777 := by decide
  obtain ⟨bounded, whole⟩ := split_never_beats_curve _ _ _ _ funded filled
  exact ⟨funded, rfl, fills, _, filled, filledWhole, returned, by decide +kernel, bounded,
    (whole _ _ filledWhole).2 rfl⟩

end VeiledPool.Curve
