import Mathlib.Tactic.Ring
import VeiledPool.Curve.Fill
import VeiledPool.Proofs.Wide.Natural

/-! # What a swap pays

A fill is exact: where all of its intermediate results exist, it pays the amounts
that the same formulas give over all natural numbers. What is paid never lets the
product of the reserves fall, so the guard of a fill has nothing to refuse.
-/

namespace VeiledPool

def CommissionRate.feeOn (rate : CommissionRate) (gross : Nat) : Nat :=
  gross * rate.nom / rate.denom

theorem CommissionRate.feeOn_le (rate : CommissionRate) (gross : Nat) :
    rate.feeOn gross ≤ gross := by
  apply Nat.div_le_of_le_mul
  rw [Nat.mul_comm rate.denom]
  exact Nat.mul_le_mul_left gross rate.nom_le

namespace Curve

/-- The largest output that keeps the product of the reserves from falling. -/
def gross (offerPool askPool offer : Nat) : Nat :=
  askPool * offer / (offerPool + offer)

/-- The output at the price before the swap, rounded down. -/
def marginal (offerPool askPool offer : Nat) : Nat :=
  offer * askPool / offerPool

/-- The fill that the formulas give without regard to any range. -/
def exactFill (offerPool askPool offer : Nat) (rate : CommissionRate) : Fill :=
  let gross := gross offerPool askPool offer
  let returned := gross - rate.feeOn gross
  { returned
    spread := marginal offerPool askPool offer - gross
    commission := rate.feeOn gross
    newOfferPool := offerPool + offer
    newAskPool := askPool - returned
    productBefore := offerPool * askPool
    productAfter := (offerPool + offer) * (askPool - returned) }

structure InRange (offerPool askPool offer : Nat) (rate : CommissionRate) : Prop where
  product : offerPool * askPool ≤ wideMax
  newOfferPool : offerPool + offer ≤ wideMax
  marginalProduct : offer * askPool ≤ wideMax
  denom : rate.denom ≤ wideMax
  feeProduct : gross offerPool askPool offer * rate.nom ≤ wideMax
  returned : (exactFill offerPool askPool offer rate).returned ≤ amountMax
  spread : (exactFill offerPool askPool offer rate).spread ≤ amountMax
  commission : (exactFill offerPool askPool offer rate).commission ≤ amountMax

variable {offerPool askPool offer : Nat} {rate : CommissionRate} {fill : Fill} {value : Int}

theorem gross_mul_le (offerPool askPool offer : Nat) :
    gross offerPool askPool offer * (offerPool + offer) ≤ askPool * offer :=
  Nat.div_mul_le_self _ _

theorem gross_lt (offerFunded : 0 < offerPool) (askFunded : 0 < askPool) (offer : Nat) :
    gross offerPool askPool offer < askPool := by
  apply Nat.div_lt_of_lt_mul
  rw [Nat.mul_comm]
  exact Nat.mul_lt_mul_of_pos_right (by omega) askFunded

theorem gross_le_marginal (offerFunded : 0 < offerPool) :
    gross offerPool askPool offer ≤ marginal offerPool askPool offer := by
  rw [gross, marginal, Nat.mul_comm askPool]
  exact Nat.div_le_div_left (by omega) offerFunded

theorem returned_le_gross (rate : CommissionRate) :
    (exactFill offerPool askPool offer rate).returned ≤ gross offerPool askPool offer :=
  Nat.sub_le _ _

theorem returned_add_commission (rate : CommissionRate) :
    (exactFill offerPool askPool offer rate).returned +
      (exactFill offerPool askPool offer rate).commission = gross offerPool askPool offer :=
  Nat.sub_add_cancel (rate.feeOn_le _)

theorem gross_add_spread (offerFunded : 0 < offerPool) (rate : CommissionRate) :
    gross offerPool askPool offer + (exactFill offerPool askPool offer rate).spread =
      marginal offerPool askPool offer :=
  Nat.add_sub_cancel' (gross_le_marginal offerFunded)

theorem sub_ceil_eq_gross (offerFunded : 0 < offerPool) :
    (askPool : Int) -
      -(-((offerPool * askPool : Nat) : Int)).fdiv ((offerPool + offer : Nat) : Int) =
        gross offerPool askPool offer := by
  have nonzero : ((offerPool + offer : Nat) : Int) ≠ 0 := by omega
  rw [gross, Int.ofNat_fdiv, sub_neg_eq_add, add_comm, ← Int.add_mul_fdiv_right _ _ nonzero]
  congr 1
  push_cast
  ring

theorem sub_divCeil_eq_some_iff (offerFunded : 0 < offerPool)
    (product : offerPool * askPool ≤ wideMax) :
    Wide.sub (Wide.lift askPool) (Wide.divCeil (some (offerPool * askPool : Nat))
        (Wide.add (Wide.lift offerPool) (Wide.lift offer))) = some value ↔
      offerPool + offer ≤ wideMax ∧ value = gross offerPool askPool offer := by
  have small : askPool ≤ wideMax := le_trans (Nat.le_mul_of_pos_left askPool offerFunded) product
  by_cases inRange : offerPool + offer ≤ wideMax
  · have sum : Wide.add (Wide.lift offerPool) (Wide.lift offer) =
        some ((offerPool + offer : Nat) : Int) := Wide.add_lift_eq_some_iff.2 ⟨inRange, rfl⟩
    have nonzero : ((offerPool + offer : Nat) : Int) ≠ 0 := by omega
    have quotient : Wide.divCeil (some ((offerPool * askPool : Nat) : Int))
        (some ((offerPool + offer : Nat) : Int)) =
          some (-(-((offerPool * askPool : Nat) : Int)).fdiv ((offerPool + offer : Nat) : Int)) := by
      simp only [Wide.divCeil, Wide.both, if_neg nonzero]
    rw [sum, quotient, Wide.lift_of_le small, Wide.sub_some,
      sub_ceil_eq_gross offerFunded, Wide.lift_natCast_eq_some_iff]
    have below : gross offerPool askPool offer ≤ askPool := by
      apply Nat.div_le_of_le_mul
      rw [Nat.mul_comm]
      exact Nat.mul_le_mul_right _ (Nat.le_add_left offer offerPool)
    constructor
    · rintro ⟨_, rfl⟩
      exact ⟨inRange, rfl⟩
    · rintro ⟨_, rfl⟩
      exact ⟨le_trans below small, rfl⟩
  · have sum : Wide.add (Wide.lift offerPool) (Wide.lift offer) = none := by
      cases added : Wide.add (Wide.lift offerPool) (Wide.lift offer) with
      | none => rfl
      | some value => exact absurd (Wide.add_lift_eq_some_iff.1 added).1 inRange
    simp [sum, Wide.divCeil, Wide.sub, Wide.both, inRange]

theorem excess_natCast (a b : Nat) : excess a b = ((a - b : Nat) : Int) := by
  unfold excess
  split <;> omega

/-- Where the intermediate results exist, a fill can only fail for an amount that is out
    of range, and the net output is looked at first. -/
theorem fill_eq_narrowed (offerFunded : 0 < offerPool) (askFunded : 0 < askPool)
    (product : offerPool * askPool ≤ wideMax) (newOfferPool : offerPool + offer ≤ wideMax)
    (marginalProduct : offer * askPool ≤ wideMax) (denom : rate.denom ≤ wideMax)
    (feeProduct : gross offerPool askPool offer * rate.nom ≤ wideMax) :
    Curve.fill offerPool askPool offer rate =
      let exact := exactFill offerPool askPool offer rate
      if amountMax < exact.returned then
        .error (.overflow (.narrowing "return_amount" exact.returned))
      else if amountMax < exact.spread then
        .error (.overflow (.narrowing "spread_amount" exact.spread))
      else if amountMax < exact.commission then
        .error (.overflow (.narrowing "commission_amount" exact.commission))
      else .ok exact := by
  have offerSmall := le_trans (Nat.le_mul_of_pos_right offerPool askFunded) product
  have askSmall := le_trans (Nat.le_mul_of_pos_left askPool offerFunded) product
  have nomSmall := le_trans rate.nom_le denom
  have grossSmall := le_trans (gross_lt offerFunded askFunded offer).le askSmall
  have offeredSmall : offer ≤ wideMax := le_trans (Nat.le_add_left _ _) newOfferPool
  have multiplied := Wide.mul_lift_eq_some_iff.2 ⟨offerSmall, askSmall, product, rfl⟩
  have grossed := (sub_divCeil_eq_some_iff offerFunded product).2 ⟨newOfferPool, rfl⟩
  have priced : Wide.div (Wide.mul (Wide.lift offer) (Wide.lift askPool)) (Wide.lift offerPool) =
      some ((marginal offerPool askPool offer : Nat) : Int) := Wide.mulDiv_lift_eq_some_iff.2
    ⟨⟨offeredSmall, askSmall, marginalProduct⟩, ⟨offerSmall, offerFunded.ne'⟩, rfl⟩
  have charged : Wide.div
      (Wide.mul (Wide.lift (gross offerPool askPool offer)) (Wide.lift rate.nom))
      (Wide.lift rate.denom) = some ((rate.feeOn (gross offerPool askPool offer) : Nat) : Int) :=
    Wide.mulDiv_lift_eq_some_iff.2
      ⟨⟨grossSmall, nomSmall, feeProduct⟩, ⟨denom, rate.denom_pos.ne'⟩, rfl⟩
  have netted := Wide.sub_lift_eq_some_iff.2
    ⟨grossSmall, rate.feeOn_le (gross offerPool askPool offer), rfl⟩
  have funded : ¬ (offerPool = 0 ∨ askPool = 0) := by omega
  have marginalSmall : marginal offerPool askPool offer ≤ wideMax :=
    le_trans (Nat.div_le_self _ _) marginalProduct
  have feeSmall := le_trans (rate.feeOn_le _) grossSmall
  have returnedSmall := le_trans (returned_le_gross rate) grossSmall
  have spreadSmall : (exactFill offerPool askPool offer rate).spread ≤ wideMax :=
    le_trans (Nat.sub_le _ _) marginalSmall
  unfold Curve.fill
  unfold exactFill at returnedSmall spreadSmall ⊢
  simp only [funded, if_false, multiplied, grossed, priced, charged, netted, Wide.require_some,
    ok_bind, excess_natCast]
  rw [narrow_natCast (legible_of_le_wideMax returnedSmall),
    narrow_natCast (legible_of_le_wideMax spreadSmall),
    narrow_natCast (legible_of_le_wideMax feeSmall)]
  split
  · rfl
  · split
    · rfl
    · split <;> rfl

theorem fill_eq_ok_iff :
    Curve.fill offerPool askPool offer rate = .ok fill ↔
      (0 < offerPool ∧ 0 < askPool) ∧ InRange offerPool askPool offer rate ∧
        fill = exactFill offerPool askPool offer rate := by
  by_cases empty : offerPool = 0 ∨ askPool = 0
  · have unfunded : ¬ (0 < offerPool ∧ 0 < askPool) := by omega
    simp [Curve.fill, empty, unfunded]
  obtain ⟨offerFunded, askFunded⟩ : 0 < offerPool ∧ 0 < askPool := by omega
  constructor
  · simp only [Curve.fill, empty, if_false, bind_eq_ok, Wide.require_eq_ok_iff, pure_eq_ok]
    rintro ⟨_, multiplied, _, grossed, _, priced, _, charged, _, netted, _, paid, _, lost, _,
      kept, rfl⟩
    obtain ⟨-, -, product, rfl⟩ := Wide.mul_lift_eq_some_iff.1 multiplied
    obtain ⟨newOfferPool, rfl⟩ := (sub_divCeil_eq_some_iff offerFunded product).1 grossed
    obtain ⟨⟨-, -, marginalProduct⟩, -, rfl⟩ := Wide.mulDiv_lift_eq_some_iff.1 priced
    obtain ⟨⟨-, -, feeProduct⟩, ⟨denom, -⟩, rfl⟩ := Wide.mulDiv_lift_eq_some_iff.1 charged
    obtain ⟨-, -, rfl⟩ := Wide.sub_lift_eq_some_iff.1 netted
    rw [excess_natCast] at lost
    obtain ⟨returned, rfl⟩ := narrow_natCast_eq_ok_iff.1 paid
    obtain ⟨spread, rfl⟩ := narrow_natCast_eq_ok_iff.1 lost
    obtain ⟨commission, rfl⟩ := narrow_natCast_eq_ok_iff.1 kept
    exact ⟨⟨offerFunded, askFunded⟩, ⟨product, newOfferPool, marginalProduct, denom, feeProduct,
      returned, spread, commission⟩, rfl⟩
  · rintro ⟨-, range, rfl⟩
    rw [fill_eq_narrowed offerFunded askFunded range.product range.newOfferPool
      range.marginalProduct range.denom range.feeProduct]
    simp only [Nat.not_lt.2 range.returned, Nat.not_lt.2 range.spread,
      Nat.not_lt.2 range.commission, if_false]

/-- With amounts and terms of 128 bits only the spread can be out of range. -/
theorem fill_eq_of_native (offerFunded : 0 < offerPool) (askFunded : 0 < askPool)
    (held : offerPool + offer ≤ amountMax) (ask : askPool ≤ amountMax)
    (denom : rate.denom ≤ amountMax) :
    Curve.fill offerPool askPool offer rate =
      let exact := exactFill offerPool askPool offer rate
      if amountMax < exact.spread then
        .error (.overflow (.narrowing "spread_amount" exact.spread))
      else .ok exact := by
  have product (a b : Nat) (smallA : a ≤ amountMax) (smallB : b ≤ amountMax) : a * b ≤ wideMax :=
    le_trans (Nat.mul_le_mul smallA smallB) amountMax_sq_le_wideMax
  have grossSmall := le_trans (gross_lt offerFunded askFunded offer).le ask
  have returned := le_trans (returned_le_gross rate) grossSmall
  have commission := le_trans (rate.feeOn_le (gross offerPool askPool offer)) grossSmall
  rw [fill_eq_narrowed offerFunded askFunded
    (product _ _ (by omega) ask) (le_trans held amountMax_le_wideMax)
    (product _ _ (by omega) ask) (le_trans denom amountMax_le_wideMax)
    (product _ _ grossSmall (le_trans rate.nom_le denom))]
  simp only [Nat.not_lt.2 returned, if_false]
  split
  · rfl
  · exact if_neg (Nat.not_lt.2 commission)

theorem product_le_of_le_gross {returned : Nat} (fair : returned ≤ gross offerPool askPool offer) :
    offerPool * askPool ≤ (offerPool + offer) * (askPool - returned) := by
  have paid := le_trans (Nat.mul_le_mul_right (offerPool + offer) fair)
    (gross_mul_le offerPool askPool offer)
  rw [Nat.mul_sub, Nat.add_mul, Nat.mul_comm (offerPool + offer) returned,
    Nat.mul_comm offer askPool]
  omega

/-- The guard refuses no fill. -/
theorem guardedFill_eq_fill : guardedFill offerPool askPool offer rate =
    Curve.fill offerPool askPool offer rate := by
  cases filled : Curve.fill offerPool askPool offer rate with
  | error fault => simp [guardedFill, filled, bind, Except.bind]
  | ok fill =>
    obtain ⟨-, -, rfl⟩ := fill_eq_ok_iff.1 filled
    have kept : (exactFill offerPool askPool offer rate).productBefore ≤
        (exactFill offerPool askPool offer rate).productAfter :=
      product_le_of_le_gross (returned_le_gross rate)
    simp only [guardedFill, filled, bind, Except.bind]
    rw [Fill.guard, if_neg (Nat.not_lt.2 kept)]

end Curve

end VeiledPool
