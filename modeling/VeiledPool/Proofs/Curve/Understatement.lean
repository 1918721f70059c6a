import VeiledPool.Proofs.Curve.Inverse

/-! # What a quote understates

A quote takes its spread and its commission from ratios in whole atoms, a swap takes
them from the amounts themselves. The quote therefore states no more than the same
formulas give without atoms, and at most an atom less for each unit that the ratio is
applied to. The swap of what was quoted pays out no more than the request with its
commission, so its spread is no smaller than the quoted one.
-/

namespace VeiledPool

theorem CommissionRate.feeOn_mono (rate : CommissionRate) {less more : Nat} (le : less ≤ more) :
    rate.feeOn less ≤ rate.feeOn more :=
  Nat.div_le_div_right (Nat.mul_le_mul_right _ le)

namespace Curve

open Fixed (unit)

variable {offerPool askPool ask : Nat} {rate : CommissionRate} {quote : Quote}

/-- The spread and the commission of a quote against those that the amounts themselves give. The
    subtractions stop at zero: a quote has no negative spread. -/
structure Understates (offerPool askPool ask : Nat) (rate : CommissionRate) (quote : Quote) :
    Prop where
  before : quote.beforeCommission = grossedUp ask rate
  spread_le : quote.spread ≤ quote.offer * askPool / offerPool - quote.beforeCommission
  le_spread_add : quote.offer * askPool / offerPool - quote.beforeCommission ≤
    quote.spread + quote.offer ⌈/⌉ unit
  commission_le : quote.commission ≤ quote.beforeCommission * rate.nom / rate.denom
  le_commission_add : quote.beforeCommission * rate.nom / rate.denom ≤
    quote.commission + quote.beforeCommission ⌈/⌉ unit

theorem understates_exactQuote (ask : Nat) (rate : CommissionRate) (offerFunded : 0 < offerPool) :
    Understates offerPool askPool ask rate (exactQuote offerPool askPool ask rate) := by
  generalize made : exactQuote offerPool askPool ask rate = quote
  have spread : quote.spread =
      quote.offer * (askPool * unit / offerPool) / unit - quote.beforeCommission := by
    rw [← made]
    rfl
  have commission : quote.commission =
      quote.beforeCommission * (rate.nom * unit / rate.denom) / unit := by
    rw [← made]
    rfl
  constructor
  case before =>
    rw [← made]
    rfl
  case spread_le =>
    rw [spread]
    exact Nat.sub_le_sub_right (Fixed.scaled_le _ _ offerFunded) _
  case le_spread_add =>
    have priced := Fixed.le_scaled_add quote.offer askPool offerFunded
    omega
  case commission_le =>
    rw [commission]
    exact Fixed.scaled_le _ _ rate.denom_pos
  case le_commission_add =>
    rw [commission]
    exact Fixed.le_scaled_add _ _ rate.denom_pos

theorem fill_of_quoted {fill : Fill} (quoted : Curve.quote offerPool askPool ask rate = .ok quote)
    (filled : Curve.fill offerPool askPool quote.offer rate = .ok fill) :
    quote.spread ≤ fill.spread ∧ fill.commission ≤ rate.feeOn quote.beforeCommission := by
  obtain ⟨quotable, rfl⟩ := quote_eq_exactQuote quoted
  obtain ⟨-, -, rfl⟩ := fill_eq_ok_iff.1 filled
  have understated : Understates offerPool askPool ask rate
      (exactQuote offerPool askPool ask rate) :=
    understates_exactQuote ask rate quotable.offerFunded
  have paid : gross offerPool askPool (exactQuote offerPool askPool ask rate).offer ≤
      grossedUp ask rate := gross_le_of_le_required quotable.met le_rfl
  exact ⟨understated.spread_le.trans (Nat.sub_le_sub_left paid _), rate.feeOn_mono paid⟩

/-- Where a quote is given, its spread and its commission are those of the exact ratios or less by
    a bounded number of units, and a swap of the quoted offer at the same rate bears them out. -/
theorem quote_understates {offerPool askPool ask nom denom : Scalar} {quote : Quote}
    (quoted : Request.quote offerPool askPool ask nom denom = .ok quote) :
    ∃ (offerAmount askAmount wanted : Nat) (rate : CommissionRate),
      (offerPool = .int offerAmount ∧ askPool = .int askAmount ∧ ask = .int wanted) ∧
      (nom = .int rate.nom ∧ denom = .int rate.denom) ∧
      Understates offerAmount askAmount wanted rate quote ∧
      ∀ fill, Request.fill offerPool askPool (.int quote.offer) nom denom = .ok fill →
        quote.spread ≤ fill.spread ∧
          fill.commission ≤ quote.beforeCommission * rate.nom / rate.denom := by
  obtain ⟨offerAmount, askAmount, wanted, rate, rfl, rfl, rfl, ⟨rfl, rfl⟩, given⟩ :=
    Request.quote_eq_ok_iff.1 quoted
  refine ⟨offerAmount, askAmount, wanted, rate, ⟨rfl, rfl, rfl⟩, ⟨rfl, rfl⟩, ?understated, ?swap⟩
  case understated =>
    obtain ⟨quotable, rfl⟩ := quote_eq_exactQuote given
    exact understates_exactQuote wanted rate quotable.offerFunded
  case swap =>
    intro fill filled
    rw [Request.fill_natCast] at filled
    exact fill_of_quoted given filled

def sampleSevenths : CommissionRate :=
  ⟨2, 7, by decide, by decide⟩

/-- Neither the price nor the rate is a whole number of atoms, so the quote states a spread that
    is five units short and a commission that is two units short. -/
theorem quote_understates_sample :
    ∃ quote fill,
      Request.quote (.int (3 * 10 ^ 20)) (.int (10 ^ 20)) (.int (3 * 10 ^ 18)) (.int 2) (.int 7) =
        .ok quote ∧
      Request.fill (.int (3 * 10 ^ 20)) (.int (10 ^ 20)) (.int quote.offer) (.int 2) (.int 7) =
        .ok fill ∧
      quote.offer * 10 ^ 20 / (3 * 10 ^ 20) - quote.beforeCommission = quote.spread + 5 ∧
      quote.beforeCommission * 2 / 7 = quote.commission + 2 ∧
      Understates (3 * 10 ^ 20) (10 ^ 20) (3 * 10 ^ 18) sampleSevenths quote ∧
      quote.spread ≤ fill.spread ∧ fill.commission ≤ quote.beforeCommission * 2 / 7 := by
  have quoted : Request.quote (.int (3 * 10 ^ 20)) (.int (10 ^ 20)) (.int (3 * 10 ^ 18)) (.int 2)
      (.int 7) = .ok (exactQuote (3 * 10 ^ 20) (10 ^ 20) (3 * 10 ^ 18) sampleSevenths) := by
    decide +kernel
  have filled : Request.fill (.int (3 * 10 ^ 20)) (.int (10 ^ 20))
      (.int (exactQuote (3 * 10 ^ 20) (10 ^ 20) (3 * 10 ^ 18) sampleSevenths).offer) (.int 2)
      (.int 7) = .ok (exactFill (3 * 10 ^ 20) (10 ^ 20)
        (exactQuote (3 * 10 ^ 20) (10 ^ 20) (3 * 10 ^ 18) sampleSevenths).offer
        sampleSevenths) := by
    decide +kernel
  obtain ⟨offerAmount, askAmount, wanted, rate, ⟨offered, asked, wants⟩, ⟨nom, denom⟩, understates,
    swapped⟩ := quote_understates quoted
  simp only [Scalar.int.injEq] at offered asked wants nom denom
  obtain rfl : sampleSevenths = rate := CommissionRate.eq_of_terms nom denom
  obtain ⟨rfl, rfl, rfl⟩ : offerAmount = 3 * 10 ^ 20 ∧ askAmount = 10 ^ 20 ∧ wanted = 3 * 10 ^ 18 :=
    by omega
  obtain ⟨spread, commission⟩ := swapped _ filled
  exact ⟨_, _, quoted, filled, by decide +kernel, by decide +kernel, understates, spread,
    commission⟩

end Curve

end VeiledPool
