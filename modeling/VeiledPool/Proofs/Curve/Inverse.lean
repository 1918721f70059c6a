import VeiledPool.Proofs.Curve.Exactness
import VeiledPool.Proofs.Curve.Quote
import VeiledPool.Proofs.Request.Pricing

/-! # Quotes and swaps

A quote is the inverse of a swap up to one unit. A swap of what was quoted, or of
less, never pays more than was asked for; a swap of more pays the request with
its commission at least. Where the rate has a finite ratio and the request is
moderate it pays what was asked for.
-/

namespace VeiledPool.Curve

open Fixed (unit)

variable {offerPool askPool ask before offer : Nat} {rate : CommissionRate}

theorem before_le_gross_iff (offerFunded : 0 < offerPool) (met : before < askPool) :
    before ≤ gross offerPool askPool offer ↔
      offerPool * askPool ≤ (offerPool + offer) * (askPool - before) := by
  have largest : (before : Int) ≤ gross offerPool askPool offer ↔
      (offerPool * askPool : Int) ≤ (offerPool + offer) * (askPool - before) :=
    le_gross_iff offerFunded before
  rw [← Int.ofNat_sub met.le] at largest
  exact_mod_cast largest

/-- Beyond the offer that is read off the product, the output is at least what it was read off
    for. -/
theorem le_gross_of_required_lt (offerFunded : 0 < offerPool) (met : before < askPool)
    (more : required offerPool askPool before < offer) :
    before ≤ gross offerPool askPool offer := by
  rw [before_le_gross_iff offerFunded met]
  have beyond : offerPool * askPool / (askPool - before) < offerPool + offer := by
    rw [← add_required met]
    omega
  exact ((Nat.div_lt_iff_lt_mul (by omega)).1 beyond).le

theorem gross_lt_of_lt_required (offerFunded : 0 < offerPool) (met : before < askPool)
    (less : offer < required offerPool askPool before) :
    gross offerPool askPool offer < before := by
  rw [← Nat.not_le, before_le_gross_iff offerFunded met, Nat.not_le]
  have within : (offerPool + offer + 1) * (askPool - before) ≤ offerPool * askPool := by
    rw [← Nat.le_div_iff_mul_le (by omega), ← add_required met]
    omega
  refine lt_of_lt_of_le ?_ within
  exact Nat.mul_lt_mul_of_pos_right (Nat.lt_succ_self _) (by omega)

theorem gross_le_of_le_required (met : before < askPool)
    (notMore : offer ≤ required offerPool askPool before) :
    gross offerPool askPool offer ≤ before := by
  have within : (offerPool + offer) * (askPool - before) ≤ offerPool * askPool := by
    rw [← Nat.le_div_iff_mul_le (by omega), ← add_required met]
    omega
  have grown : (offerPool + offer) * askPool = offerPool * askPool + askPool * offer := by ring
  rw [Nat.mul_sub] at within
  apply Nat.div_le_of_le_mul
  omega

theorem grossedUp_of_free (free : rate.nom = 0) : grossedUp ask rate = ask := by
  have charge : rate.atoms = 0 := by rw [CommissionRate.atoms, free, Nat.zero_mul, Nat.zero_div]
  rw [grossedUp, charge, Nat.sub_zero, Nat.mul_div_cancel _ Fixed.unit_pos,
    Nat.mul_div_cancel _ Fixed.unit_pos]

/-- The ratio of the rate is finite and the request moderate, or there is no commission. -/
def Recoverable (ask : Nat) (rate : CommissionRate) : Prop :=
  rate.nom = 0 ∨ rate.denom ∣ rate.nom * unit ∧
    ask * (unit - rate.nom * unit / rate.denom) ≤ unit * (rate.nom * unit / rate.denom)

theorem le_netOf_grossedUp (leaves : rate.atoms < unit) (recoverable : Recoverable ask rate) :
    ask ≤ rate.netOf (grossedUp ask rate) := by
  cases recoverable with
  | inl free =>
    rw [grossedUp_of_free free, CommissionRate.netOf, CommissionRate.feeOn, free, Nat.mul_zero,
      Nat.zero_div, Nat.sub_zero]
  | inr finite =>
    obtain ⟨finite, moderate⟩ := finite
    -- With a finite ratio the commission is a share of atoms, so nothing is rounded twice.
    have short := lt_grossedUp_mul leaves moderate
    have charge : rate.atoms * rate.denom = rate.nom * unit := Nat.div_mul_cancel finite
    generalize grossedUp ask rate = before at short ⊢
    have fee : rate.feeOn before = before * rate.atoms / unit := by
      rw [CommissionRate.feeOn, ← Nat.mul_div_mul_right _ _ Fixed.unit_pos, Nat.mul_assoc, ← charge,
        ← Nat.mul_assoc, Nat.mul_comm rate.denom, Nat.mul_div_mul_right _ _ rate.denom_pos]
    rw [CommissionRate.netOf, fee]
    have taken : before * rate.atoms / unit < before + 1 - ask := by
      rw [Nat.div_lt_iff_lt_mul Fixed.unit_pos, Nat.sub_mul, Nat.add_mul]
      rw [Nat.mul_sub] at short
      have ordered := Nat.mul_le_mul_left before leaves.le
      omega
    omega

/-- A quote against a swap on the same reserves and at the same rate. -/
structure Brackets (ask offer : Nat) (rate : CommissionRate) (quote : Quote) (fill : Fill) :
    Prop where
  before : quote.beforeCommission = grossedUp ask rate
  upTo : offer ≤ quote.offer → fill.returned ≤ ask
  below : offer < quote.offer → fill.returned + fill.commission < quote.beforeCommission
  beyond : quote.offer < offer → quote.beforeCommission ≤ fill.returned + fill.commission
  /-- What was asked for, where the commission can be taken off again without loss. -/
  enough : Recoverable ask rate → quote.offer < offer → ask ≤ fill.returned

theorem brackets_of_eq_ok {quote : Quote} {fill : Fill}
    (quoted : Curve.quote offerPool askPool ask rate = .ok quote)
    (filled : Curve.fill offerPool askPool offer rate = .ok fill) :
    Brackets ask offer rate quote fill := by
  obtain ⟨quotable, rfl⟩ := quote_eq_exactQuote quoted
  obtain ⟨⟨offerFunded, -⟩, -, rfl⟩ := fill_eq_ok_iff.1 filled
  have paid : (exactFill offerPool askPool offer rate).returned +
      (exactFill offerPool askPool offer rate).commission = gross offerPool askPool offer :=
    returned_add_commission rate
  constructor
  case before => rfl
  case upTo =>
    intro notMore
    exact (rate.netOf_mono (gross_le_of_le_required quotable.met notMore)).trans
      (CommissionRate.netOf_le (grossedUp_mul_le ask rate))
  case below =>
    rw [paid]
    exact gross_lt_of_lt_required offerFunded quotable.met
  case beyond =>
    rw [paid]
    exact le_gross_of_required_lt offerFunded quotable.met
  case enough =>
    intro recoverable more
    exact (le_netOf_grossedUp quotable.leaves recoverable).trans
      (rate.netOf_mono (le_gross_of_required_lt offerFunded quotable.met more))

/-- Where a quote is given and a swap is priced, the arguments are integers in their ranges. Up
    to the quoted offer the swap pays no more than was asked for, below it the gross output is
    less than the request with its commission and beyond it no less. Where the commission can be
    taken off again without loss, the swap then pays what was asked for. -/
theorem quote_brackets_fill {offerPool askPool ask offer nom denom : Scalar} {quote : Quote}
    {fill : Fill} (quoted : Request.quote offerPool askPool ask nom denom = .ok quote)
    (filled : Request.fill offerPool askPool offer nom denom = .ok fill) :
    ∃ (wanted offered : Nat) (rate : CommissionRate), ask = .int wanted ∧ offer = .int offered ∧
      (nom = .int rate.nom ∧ denom = .int rate.denom) ∧
      Brackets wanted offered rate quote fill := by
  obtain ⟨offerAmount, askAmount, wanted, rate, rfl, rfl, rfl, ⟨rfl, rfl⟩, given⟩ :=
    Request.quote_eq_ok_iff.1 quoted
  simp only [Request.fill, Scalar.amount_natCast, Request.rate_terms, ok_bind] at filled
  obtain ⟨offered, offerRead, priced⟩ := bind_eq_ok.1 filled
  exact ⟨wanted, offered, rate, rfl, Scalar.amount_eq_ok_iff.1 offerRead, ⟨rfl, rfl⟩,
    brackets_of_eq_ok given priced⟩

/-- In a skewed pool one coin more or less moves the output by hundreds of tokens. -/
theorem quote_brackets_fill_sample :
    ∃ quote upTo beyond,
      Request.quote (.int 1000) (.int 777777) (.int 1000) (.int 3) (.int 1000) = .ok quote ∧
      Request.fill (.int 1000) (.int 777777) (.int 1) (.int 3) (.int 1000) = .ok upTo ∧
      Request.fill (.int 1000) (.int 777777) (.int 2) (.int 3) (.int 1000) = .ok beyond ∧
      quote.offer = 1 ∧ Recoverable 1000 .standard ∧
      upTo.returned ≤ 1000 ∧ 1000 ≤ beyond.returned := by
  have quoted : Request.quote (.int 1000) (.int 777777) (.int 1000) (.int 3) (.int 1000) =
      .ok (exactQuote 1000 777777 1000 .standard) := by decide +kernel
  have filled : ∀ offer ∈ [1, 2],
      Request.fill (.int 1000) (.int 777777) (.int offer) (.int 3) (.int 1000) =
        .ok (exactFill 1000 777777 offer.toNat .standard) := by decide +kernel
  have recoverable : Recoverable 1000 .standard := .inr (by decide +kernel)
  have quotedOffer : (exactQuote 1000 777777 1000 .standard).offer = 1 := by decide +kernel
  obtain ⟨wanted, offered, rate, asked, taken, ⟨nom, denom⟩, first⟩ :=
    quote_brackets_fill quoted (filled 1 (by decide))
  obtain ⟨wanted', offered', rate', asked', taken', ⟨nom', denom'⟩, second⟩ :=
    quote_brackets_fill quoted (filled 2 (by decide))
  simp only [Scalar.int.injEq] at asked taken nom denom asked' taken' nom' denom'
  have standard : rate' = .standard := by
    obtain ⟨_, _, _, _⟩ := rate'
    dsimp only at nom' denom'
    simp only [CommissionRate.standard, CommissionRate.mk.injEq]
    omega
  obtain ⟨rfl, rfl, rfl⟩ : wanted = 1000 ∧ wanted' = 1000 ∧ rate' = .standard :=
    ⟨by omega, by omega, standard⟩
  exact ⟨_, _, _, quoted, filled 1 (by decide), filled 2 (by decide), quotedOffer, recoverable,
    first.upTo (by omega), second.enough recoverable (by omega)⟩

end VeiledPool.Curve
