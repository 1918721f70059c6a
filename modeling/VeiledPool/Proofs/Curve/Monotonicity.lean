import Mathlib.Algebra.Order.Floor.Semifield
import Mathlib.Data.Rat.Floor
import VeiledPool.Proofs.Curve.Inverse

/-! # More for more

A swap pays no less if more is offered, if the reserve that pays is larger or if the
other one is smaller, and a higher rate leaves no more of it. A quote is no lower if
more is asked for, at a higher rate or against reserves that pay less. The amounts are
differences of rounded numbers, so each of them is brought to a single quotient first
or compared with its roundings.
-/

namespace VeiledPool

namespace CommissionRate

open Fixed (unit)

variable {rate higher : CommissionRate}

def share (rate : CommissionRate) : ℚ :=
  rate.nom / rate.denom

theorem feeOn_eq_floor (rate : CommissionRate) (gross : Nat) :
    rate.feeOn gross = ⌊gross * rate.share⌋₊ := by
  rw [share, ← mul_div_assoc, ← Nat.cast_mul, Nat.floor_div_eq_div, feeOn]

/-- A higher rate charges no less, however its terms are written. -/
theorem feeOn_le_feeOn (le : rate.share ≤ higher.share) (gross : Nat) :
    rate.feeOn gross ≤ higher.feeOn gross := by
  rw [feeOn_eq_floor, feeOn_eq_floor]
  exact Nat.floor_le_floor (mul_le_mul_of_nonneg_left le gross.cast_nonneg)

theorem netOf_le_netOf (le : rate.share ≤ higher.share) (gross : Nat) :
    higher.netOf gross ≤ rate.netOf gross :=
  Nat.sub_le_sub_left (feeOn_le_feeOn le gross) gross

theorem atoms_eq_feeOn (rate : CommissionRate) : rate.atoms = rate.feeOn unit := by
  rw [atoms, feeOn, Nat.mul_comm]

theorem atoms_le_atoms (le : rate.share ≤ higher.share) : rate.atoms ≤ higher.atoms := by
  rw [atoms_eq_feeOn, atoms_eq_feeOn]
  exact feeOn_le_feeOn le unit

end CommissionRate

namespace Curve

open Fixed (unit)

variable {offerPool offerPool' askPool askPool' offer offer' ask ask' before before' : Nat}
  {rate rate' : CommissionRate}

theorem gross_mono (funded : 0 < offerPool') (offerPools : offerPool' ≤ offerPool)
    (askPools : askPool ≤ askPool') (offers : offer ≤ offer') :
    gross offerPool askPool offer ≤ gross offerPool' askPool' offer' := by
  obtain ⟨further, rfl⟩ := Nat.exists_eq_add_of_le offers
  have paid := gross_mul_le offerPool askPool offer
  have within : gross offerPool askPool offer ≤ askPool :=
    Nat.div_le_of_le_mul (by
      rw [Nat.mul_comm]
      exact Nat.mul_le_mul_right _ (Nat.le_add_left offer offerPool))
  generalize gross offerPool askPool offer = payout at *
  rw [gross, Nat.le_div_iff_mul_le (Nat.add_pos_left funded _)]
  calc payout * (offerPool' + (offer + further))
      ≤ payout * (offerPool + (offer + further)) :=
        Nat.mul_le_mul_left _ (Nat.add_le_add_right offerPools _)
    _ = payout * (offerPool + offer) + payout * further := by rw [← Nat.add_assoc, Nat.mul_add]
    _ ≤ askPool * offer + askPool * further := Nat.add_le_add paid (Nat.mul_le_mul_right _ within)
    _ = askPool * (offer + further) := (Nat.mul_add ..).symm
    _ ≤ askPool' * (offer + further) := Nat.mul_le_mul_right _ askPools

theorem required_eq_div (met : before < askPool) :
    required offerPool askPool before = offerPool * before / (askPool - before) := by
  have whole : offerPool * askPool = offerPool * before + offerPool * (askPool - before) := by
    rw [← Nat.mul_add, Nat.add_sub_cancel' met.le]
  rw [required, whole, Nat.add_mul_div_right _ _ (Nat.sub_pos_of_lt met), Nat.add_sub_cancel]

theorem required_mono (met : before < askPool) (met' : before' < askPool')
    (offerPools : offerPool ≤ offerPool') (askPools : askPool' ≤ askPool)
    (befores : before ≤ before') :
    required offerPool askPool before ≤ required offerPool' askPool' before' := by
  rw [required_eq_div met, required_eq_div met']
  apply Nat.div_le_div (Nat.mul_le_mul offerPools befores)
  · omega
  · omega

theorem grossedUp_mono (leaves : rate'.atoms < unit) (asks : ask ≤ ask')
    (rates : rate.share ≤ rate'.share) : grossedUp ask rate ≤ grossedUp ask' rate' := by
  have charged := CommissionRate.atoms_le_atoms rates
  have factor : unit * unit / (unit - rate.atoms) ≤ unit * unit / (unit - rate'.atoms) :=
    Nat.div_le_div_left (by omega) (by omega)
  exact Nat.div_le_div_right (Nat.mul_le_mul asks factor)

/-- What a price is asked for: the reserves, an amount and the terms of the rate. -/
structure Inquiry where
  offerPool : Int
  askPool : Int
  amount : Int
  nom : Int
  denom : Int

namespace Inquiry

def share (inquiry : Inquiry) : ℚ :=
  inquiry.nom / inquiry.denom

def fill (inquiry : Inquiry) : Except Fault Fill :=
  Request.fill (.int inquiry.offerPool) (.int inquiry.askPool) (.int inquiry.amount)
    (.int inquiry.nom) (.int inquiry.denom)

def quote (inquiry : Inquiry) : Except Fault Quote :=
  Request.quote (.int inquiry.offerPool) (.int inquiry.askPool) (.int inquiry.amount)
    (.int inquiry.nom) (.int inquiry.denom)

def ofNat (offerPool askPool amount : Nat) (rate : CommissionRate) : Inquiry :=
  ⟨offerPool, askPool, amount, rate.nom, rate.denom⟩

theorem share_ofNat (offerPool askPool amount : Nat) (rate : CommissionRate) :
    (ofNat offerPool askPool amount rate).share = rate.share := by
  simp [share, ofNat, CommissionRate.share]

variable {inquiry : Inquiry}

theorem fill_eq_ok {fill : Fill} (filled : inquiry.fill = .ok fill) :
    ∃ offerPool askPool offer rate, inquiry = ofNat offerPool askPool offer rate ∧
      Curve.fill offerPool askPool offer rate = .ok fill := by
  obtain ⟨offerPool, askPool, offer, rate, offered, asked, amount, ⟨nom, denom⟩, priced⟩ :=
    Request.fill_eq_ok_iff.1 filled
  simp only [Scalar.int.injEq] at offered asked amount nom denom
  refine ⟨offerPool, askPool, offer, rate, ?_, priced⟩
  rw [ofNat, ← offered, ← asked, ← amount, ← nom, ← denom]

theorem quote_eq_ok {quote : Quote} (quoted : inquiry.quote = .ok quote) :
    ∃ offerPool askPool ask rate, inquiry = ofNat offerPool askPool ask rate ∧
      Curve.quote offerPool askPool ask rate = .ok quote := by
  obtain ⟨offerPool, askPool, ask, rate, offered, asked, amount, ⟨nom, denom⟩, priced⟩ :=
    Request.quote_eq_ok_iff.1 quoted
  simp only [Scalar.int.injEq] at offered asked amount nom denom
  refine ⟨offerPool, askPool, ask, rate, ?_, priced⟩
  rw [ofNat, ← offered, ← asked, ← amount, ← nom, ← denom]

end Inquiry

theorem fill_mono {fill fill' : Fill} (filled : Curve.fill offerPool askPool offer rate = .ok fill)
    (filled' : Curve.fill offerPool' askPool' offer' rate' = .ok fill')
    (offerPools : offerPool' ≤ offerPool) (askPools : askPool ≤ askPool')
    (offers : offer ≤ offer') :
    fill.returned + fill.commission ≤ fill'.returned + fill'.commission ∧
      (rate'.share ≤ rate.share → fill.returned ≤ fill'.returned) := by
  obtain ⟨-, -, rfl⟩ := fill_eq_ok_iff.1 filled
  obtain ⟨⟨funded, -⟩, -, rfl⟩ := fill_eq_ok_iff.1 filled'
  have grown := gross_mono funded offerPools askPools offers
  constructor
  · rw [returned_add_commission, returned_add_commission]
    exact grown
  · intro rates
    exact (CommissionRate.netOf_le_netOf rates _).trans (rate'.netOf_mono grown)

theorem quote_mono {quote quote' : Quote}
    (quoted : Curve.quote offerPool askPool ask rate = .ok quote)
    (quoted' : Curve.quote offerPool' askPool' ask' rate' = .ok quote')
    (offerPools : offerPool ≤ offerPool') (askPools : askPool' ≤ askPool)
    (asks : ask ≤ ask') (rates : rate.share ≤ rate'.share) : quote.offer ≤ quote'.offer := by
  obtain ⟨quotable, rfl⟩ := quote_eq_exactQuote quoted
  obtain ⟨quotable', rfl⟩ := quote_eq_exactQuote quoted'
  exact required_mono quotable.met quotable'.met offerPools askPools
    (grossedUp_mono quotable'.leaves asks rates)

/-- Of two inquiries that are answered, the one that has more to offer to a larger reserve against
    a smaller one has no lower gross output, nor a lower output unless its rate is higher. The one
    that asks no less, at no lower a rate, of a pool that pays no more is quoted no less. With all
    other arguments equal this is what a change of a single one does. -/
theorem prices_are_monotone (less more : Inquiry) :
    (∀ fill fill', less.fill = .ok fill → more.fill = .ok fill' →
      more.offerPool ≤ less.offerPool → less.askPool ≤ more.askPool →
      less.amount ≤ more.amount →
        fill.returned + fill.commission ≤ fill'.returned + fill'.commission ∧
          (more.share ≤ less.share → fill.returned ≤ fill'.returned)) ∧
    ∀ quote quote', less.quote = .ok quote → more.quote = .ok quote' →
      less.offerPool ≤ more.offerPool → more.askPool ≤ less.askPool →
      less.amount ≤ more.amount → less.share ≤ more.share → quote.offer ≤ quote'.offer := by
  constructor
  · intro fill fill' filled filled' offerPools askPools offers
    obtain ⟨offerPool, askPool, offer, rate, rfl, priced⟩ := Inquiry.fill_eq_ok filled
    obtain ⟨offerPool', askPool', offer', rate', rfl, priced'⟩ := Inquiry.fill_eq_ok filled'
    rw [Inquiry.share_ofNat, Inquiry.share_ofNat]
    exact fill_mono priced priced' (Int.ofNat_le.1 offerPools) (Int.ofNat_le.1 askPools)
      (Int.ofNat_le.1 offers)
  · intro quote quote' quoted quoted' offerPools askPools asks rates
    obtain ⟨offerPool, askPool, ask, rate, rfl, priced⟩ := Inquiry.quote_eq_ok quoted
    obtain ⟨offerPool', askPool', ask', rate', rfl, priced'⟩ := Inquiry.quote_eq_ok quoted'
    rw [Inquiry.share_ofNat, Inquiry.share_ofNat] at rates
    exact quote_mono priced priced' (Int.ofNat_le.1 offerPools) (Int.ofNat_le.1 askPools)
      (Int.ofNat_le.1 asks) rates

/-- The rates are a third and 333 in a thousand, which is a little lower. At the lower one a
    swap pays more, here with one coin more on offer and in the reserve that pays, and a quote
    asks for less. -/
theorem prices_are_monotone_sample :
    ∃ less more cheap dear,
      Inquiry.fill ⟨1000, 777777, 500, 1, 3⟩ = .ok less ∧
      Inquiry.fill ⟨999, 777778, 501, 333, 1000⟩ = .ok more ∧
      Inquiry.quote ⟨1000, 777777, 500000, 333, 1000⟩ = .ok cheap ∧
      Inquiry.quote ⟨1000, 777777, 500000, 1, 3⟩ = .ok dear ∧
      less.returned + less.commission ≤ more.returned + more.commission ∧
      less.returned ≤ more.returned ∧ cheap.offer ≤ dear.offer := by
  have filled : Inquiry.fill ⟨1000, 777777, 500, 1, 3⟩ =
      .ok (exactFill 1000 777777 500 ⟨1, 3, by decide, by decide⟩) := by decide +kernel
  have filledMore : Inquiry.fill ⟨999, 777778, 501, 333, 1000⟩ =
      .ok (exactFill 999 777778 501 ⟨333, 1000, by decide, by decide⟩) := by decide +kernel
  have quoted : Inquiry.quote ⟨1000, 777777, 500000, 333, 1000⟩ =
      .ok (exactQuote 1000 777777 500000 ⟨333, 1000, by decide, by decide⟩) := by decide +kernel
  have quotedMore : Inquiry.quote ⟨1000, 777777, 500000, 1, 3⟩ =
      .ok (exactQuote 1000 777777 500000 ⟨1, 3, by decide, by decide⟩) := by decide +kernel
  have lower (offerPool askPool amount offerPool' askPool' amount' : Int) :
      Inquiry.share ⟨offerPool, askPool, amount, 333, 1000⟩ ≤
        Inquiry.share ⟨offerPool', askPool', amount', 1, 3⟩ := by
    norm_num [Inquiry.share]
  obtain ⟨gross, net⟩ := (prices_are_monotone _ _).1 _ _ filled filledMore (by decide) (by decide)
    (by decide)
  have offer := (prices_are_monotone _ _).2 _ _ quoted quotedMore (by decide) (by decide)
    (by decide) (lower ..)
  exact ⟨_, _, _, _, filled, filledMore, quoted, quotedMore, gross, net (lower ..), offer⟩

end Curve

end VeiledPool
