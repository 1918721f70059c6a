import VeiledPool.Proofs.Curve.Reconciliation

/-! # When a quote is refused

Against funded reserves of native size a quote is refused for three reasons only: the
commission leaves nothing of any output, the request takes the whole reserve, or the
offer or its spread is no amount. A spread beyond 256 bits is found out before the
offer is held against its range, but then it is no amount either.
-/

namespace VeiledPool

open Fixed (unit)

namespace CommissionRate

theorem atoms_lt_unit_iff (rate : CommissionRate) : rate.atoms < unit ↔ rate.nom < rate.denom := by
  rw [atoms, Nat.div_lt_iff_lt_mul rate.denom_pos, Nat.mul_comm unit,
    Nat.mul_lt_mul_right Fixed.unit_pos]

theorem ofRatio_terms (rate : CommissionRate) (small : rate.denom ≤ amountMax) :
    Fixed.ofRatio rate.nom rate.denom = .ok ⟨rate.atoms⟩ :=
  Fixed.ofRatio_eq_ok_iff.2 ⟨⟨rate.denom_pos.ne', small.trans amountMax_le_wideMax⟩,
    Fixed.mul_unit_le (rate.nom_le.trans small), rfl⟩

theorem one_minus_atoms (rate : CommissionRate) :
    Fixed.one.minus ⟨rate.atoms⟩ = .ok ⟨unit - rate.atoms⟩ :=
  Fixed.minus_eq_ok_iff.2 ⟨Fixed.unit_le_wideMax, rate.atoms_le, rfl⟩

end CommissionRate

namespace Curve

variable {offerPool askPool ask : Nat} {rate : CommissionRate}

/-- Funded reserves, a request and a rate of native size. -/
structure Native (offerPool askPool ask : Nat) (rate : CommissionRate) : Prop where
  offerFunded : 1 ≤ offerPool
  askFunded : 1 ≤ askPool
  offerSmall : offerPool ≤ amountMax
  askSmall : askPool ≤ amountMax
  wantedSmall : ask ≤ amountMax
  denomSmall : rate.denom ≤ amountMax

namespace Native

theorem funded (native : Native offerPool askPool ask rate) : ¬ (offerPool = 0 ∨ askPool = 0) := by
  have offerFunded := native.offerFunded
  have askFunded := native.askFunded
  omega

theorem product_le (native : Native offerPool askPool ask rate) : offerPool * askPool ≤ wideMax :=
  (Nat.mul_le_mul native.offerSmall native.askSmall).trans amountMax_sq_le_wideMax

theorem multiplied (native : Native offerPool askPool ask rate) :
    Wide.mul (Wide.lift offerPool) (Wide.lift askPool) = some ((offerPool * askPool : Nat) : Int) :=
  Wide.mul_lift_eq_some_iff.2 ⟨native.offerSmall.trans amountMax_le_wideMax,
    native.askSmall.trans amountMax_le_wideMax, native.product_le, rfl⟩

theorem raised (native : Native offerPool askPool ask rate) :
    (⟨unit * unit / (unit - rate.atoms)⟩ : Fixed).scale ask = .ok (grossedUp ask rate : Nat) := by
  have factor : unit * unit / (unit - rate.atoms) ≤ unit * unit := Nat.div_le_self _ _
  refine Fixed.scale_eq_ok_iff.2 ⟨⟨native.wantedSmall.trans amountMax_le_wideMax,
    factor.trans Fixed.unit_sq_le_wideMax, ?_⟩, rfl⟩
  exact (Nat.mul_le_mul native.wantedSmall factor).trans Fixed.amountMax_mul_unit_sq_le

theorem raised_legible (native : Native offerPool askPool ask rate) :
    Legible (grossedUp ask rate) :=
  (Fixed.inRange_of_scale native.raised).legible

theorem offer_le (native : Native offerPool askPool ask rate) :
    (exactQuote offerPool askPool ask rate).offer ≤ wideMax :=
  (Nat.sub_le _ _).trans ((Nat.div_le_self _ _).trans native.product_le)

theorem bought (native : Native offerPool askPool ask rate) (met : grossedUp ask rate < askPool) :
    Wide.sub (Wide.div (Wide.lift (offerPool * askPool : Nat))
      (Wide.sub (Wide.lift askPool) (Wide.lift (grossedUp ask rate)))) (Wide.lift offerPool) =
        some ((exactQuote offerPool askPool ask rate).offer : Int) :=
  (required_eq_some_iff met native.product_le (native.askSmall.trans amountMax_le_wideMax)).2 rfl

theorem priced (native : Native offerPool askPool ask rate) :
    Fixed.ofRatio askPool offerPool = .ok ⟨askPool * unit / offerPool⟩ :=
  Fixed.ofRatio_eq_ok_iff.2 ⟨⟨Nat.ne_of_gt native.offerFunded,
    native.offerSmall.trans amountMax_le_wideMax⟩, Fixed.mul_unit_le native.askSmall, rfl⟩

theorem atPrice (native : Native offerPool askPool ask rate) :
    let offer := (exactQuote offerPool askPool ask rate).offer
    let price : Fixed := ⟨askPool * unit / offerPool⟩
    price.scale offer =
      if wideMax < offer * price.atomics then .error (.overflow (.scaledAmount offer price))
      else .ok (offer * price.atomics / unit : Nat) :=
  Fixed.scale_natCast native.offer_le
    ((Nat.div_le_self _ _).trans (Fixed.mul_unit_le native.askSmall))

theorem kept (native : Native offerPool askPool ask rate) (met : grossedUp ask rate < askPool) :
    (⟨rate.atoms⟩ : Fixed).scale (grossedUp ask rate) =
      .ok ((exactQuote offerPool askPool ask rate).commission : Nat) := by
  have beforeSmall : grossedUp ask rate ≤ amountMax := met.le.trans native.askSmall
  exact Fixed.scale_eq_ok_iff.2 ⟨⟨beforeSmall.trans amountMax_le_wideMax,
    rate.atoms_le.trans Fixed.unit_le_wideMax,
    (Nat.mul_le_mul_left _ rate.atoms_le).trans (Fixed.mul_unit_le beforeSmall)⟩, rfl⟩

theorem commissionSmall (native : Native offerPool askPool ask rate)
    (met : grossedUp ask rate < askPool) :
    (exactQuote offerPool askPool ask rate).commission ≤ amountMax :=
  (rate.rounded.feeOn_le _).trans (met.le.trans native.askSmall)

end Native

theorem reciprocal_of_leaves (leaves : rate.atoms < unit) :
    (⟨unit - rate.atoms⟩ : Fixed).reciprocal = .ok ⟨unit * unit / (unit - rate.atoms)⟩ :=
  Fixed.reciprocal_eq_ok_iff.2
    ⟨⟨Nat.sub_ne_zero_of_lt leaves, (Nat.sub_le _ _).trans Fixed.unit_le_wideMax⟩, rfl⟩

theorem quote_of_nothing_left (native : Native offerPool askPool ask rate)
    (all : rate.nom = rate.denom) :
    Curve.quote offerPool askPool ask rate = .error (.degenerate .reciprocalOfZero) := by
  have nothing : unit - rate.atoms = 0 := by
    have leaves := rate.atoms_lt_unit_iff
    omega
  simp [Curve.quote, native.funded, native.multiplied, rate.ofRatio_terms native.denomSmall,
    rate.one_minus_atoms, Fixed.reciprocal, nothing]

theorem quote_of_exhausting (native : Native offerPool askPool ask rate)
    (leaves : rate.nom < rate.denom) (exhausting : askPool ≤ grossedUp ask rate) :
    Curve.quote offerPool askPool ask rate =
      .error (.degenerate (.exhaustsReserve ask (grossedUp ask rate : Nat) askPool)) := by
  have shown : (Fault.degenerate (.exhaustsReserve ask (grossedUp ask rate : Nat) askPool)).raised =
      .degenerate (.exhaustsReserve ask (grossedUp ask rate : Nat) askPool) :=
    raised_of_not_illegible (by
      simp [Fault.figures, Degeneracy.figures, legible_of_le_amountMax native.wantedSmall,
        native.raised_legible, legible_of_le_amountMax native.askSmall])
  simp [Curve.quote, native.funded, native.multiplied, rate.ofRatio_terms native.denomSmall,
    rate.one_minus_atoms, reciprocal_of_leaves (rate.atoms_lt_unit_iff.2 leaves), native.raised,
    exhausting, shown]

/-- From the offer on the amounts are exact, and those that can be out of range are looked at one
    after the other. -/
theorem quote_of_met (native : Native offerPool askPool ask rate)
    (leaves : rate.nom < rate.denom) (met : grossedUp ask rate < askPool) :
    let exact := exactQuote offerPool askPool ask rate
    let price : Fixed := ⟨askPool * unit / offerPool⟩
    Curve.quote offerPool askPool ask rate =
      if wideMax < exact.offer * price.atomics then
        .error (.overflow (.scaledAmount exact.offer price))
      else if amountMax < exact.offer then
        .error (.overflow (.narrowing "offer_amount" exact.offer))
      else if amountMax < exact.spread then
        .error (.overflow (.narrowing "spread_amount" exact.spread))
      else .ok exact := by
  intro exact price
  have unexhausted : ¬ ((askPool : Int) ≤ (grossedUp ask rate : Nat)) := by omega
  have spread : exact.offer * price.atomics / unit - grossedUp ask rate = exact.spread := rfl
  simp only [Curve.quote, native.funded, native.multiplied, rate.ofRatio_terms native.denomSmall,
    rate.one_minus_atoms, reciprocal_of_leaves (rate.atoms_lt_unit_iff.2 leaves), native.raised,
    native.bought met, native.priced, native.atPrice, native.kept met, Wide.require_some, ok_bind,
    if_false, unexhausted]
  by_cases large : wideMax < exact.offer * price.atomics
  · rw [if_pos large, if_pos large, error_bind]
  have spreadSmall : exact.spread ≤ wideMax :=
    (Nat.sub_le _ _).trans ((Nat.div_le_self _ _).trans (Nat.not_lt.1 large))
  rw [if_neg large, if_neg large, ok_bind, excess_natCast, spread,
    narrow_natCast (legible_of_le_wideMax native.offer_le),
    narrow_natCast (legible_of_le_wideMax spreadSmall),
    narrow_natCast (legible_of_le_amountMax (native.commissionSmall met)),
    if_neg (Nat.not_lt.2 (native.commissionSmall met))]
  split
  · rw [error_bind]
  · rw [ok_bind]
    split
    · rw [error_bind]
    · rw [ok_bind, ok_bind, Int.toNat_natCast, pure_eq_ok]
      rfl

theorem two_amounts_lt : amountMax + amountMax < wideMax / unit := by
  decide +kernel

/-- A spread that has no room in 256 bits is no amount. -/
theorem Native.spread_of_large (native : Native offerPool askPool ask rate)
    (met : grossedUp ask rate < askPool)
    (large : wideMax < (exactQuote offerPool askPool ask rate).offer *
      (askPool * unit / offerPool)) :
    amountMax < (exactQuote offerPool askPool ask rate).spread := by
  have room := two_amounts_lt
  have atPrice := Nat.div_le_div_right (c := unit) large.le
  have taken : grossedUp ask rate ≤ amountMax := met.le.trans native.askSmall
  have spread : (exactQuote offerPool askPool ask rate).spread =
      (exactQuote offerPool askPool ask rate).offer * (askPool * unit / offerPool) / unit -
        grossedUp ask rate := rfl
  omega

/-- A request that can be met is answered exactly if both the offer and its spread are amounts. -/
theorem quote_decided (native : Native offerPool askPool ask rate)
    (leaves : rate.nom < rate.denom) (met : grossedUp ask rate < askPool) :
    let exact := exactQuote offerPool askPool ask rate
    (exact.offer ≤ amountMax ∧ exact.spread ≤ amountMax ∧
        Curve.quote offerPool askPool ask rate = .ok exact) ∨
      ((amountMax < exact.offer ∨ amountMax < exact.spread) ∧
        ∃ cause, Curve.quote offerPool askPool ask rate = .error (.overflow cause)) := by
  intro exact
  rw [quote_of_met native leaves met]
  by_cases large : wideMax < exact.offer * (askPool * unit / offerPool)
  · exact .inr ⟨.inr (native.spread_of_large met large), _, if_pos large⟩
  by_cases offerLarge : amountMax < exact.offer
  · exact .inr ⟨.inl offerLarge, _, (if_neg large).trans (if_pos offerLarge)⟩
  by_cases spreadLarge : amountMax < exact.spread
  · exact .inr ⟨.inr spreadLarge, _,
      (if_neg large).trans ((if_neg offerLarge).trans (if_pos spreadLarge))⟩
  · exact .inl ⟨Nat.not_lt.1 offerLarge, Nat.not_lt.1 spreadLarge,
      (if_neg large).trans ((if_neg offerLarge).trans (if_neg spreadLarge))⟩

/-- On native figures a quote is refused for a degenerate state if nothing is left after the
    commission or the request takes the whole reserve, and then for an overflow if the offer or its
    spread is no amount. In all other cases it is given, and there is no other fault. -/
theorem quote_refused_iff (native : Native offerPool askPool ask rate) :
    let result := Request.quote (.int offerPool) (.int askPool) (.int ask) (.int rate.nom)
      (.int rate.denom)
    let before := ask * (unit * unit / (unit - rate.nom * unit / rate.denom)) / unit
    let grown := offerPool * askPool / (askPool - before)
    let offer := grown - offerPool
    let spread := offer * (askPool * unit / offerPool) / unit - before
    (rate.nom = rate.denom → ∃ cause, result = .error (.degenerate cause)) ∧
    (rate.nom < rate.denom →
      ((∃ cause, result = .error (.degenerate cause)) ↔ askPool ≤ before) ∧
      (before < askPool → offerPool ≤ grown ∧
        ((∃ cause, result = .error (.overflow cause)) ↔ amountMax < offer ∨ amountMax < spread) ∧
        (offer ≤ amountMax ∧ spread ≤ amountMax →
          ∃ quote, result = .ok quote ∧ quote.offer = offer ∧ quote.spread = spread))) ∧
    FailsOnly Fault.Arithmetic result := by
  intro result before grown offer spread
  have asked : result = Curve.quote offerPool askPool ask rate := Request.quote_natCast ..
  refine ⟨?nothing, fun leaves => ⟨?exhausting, fun met => ⟨?enough, ?oversize, ?given⟩⟩, ?others⟩
  case nothing =>
    intro all
    exact ⟨_, asked.trans (quote_of_nothing_left native all)⟩
  case exhausting =>
    constructor
    · rintro ⟨cause, refused⟩
      by_contra met
      rw [asked] at refused
      obtain ⟨-, -, given⟩ | ⟨-, _, overflowed⟩ :=
        quote_decided native leaves (Nat.lt_of_not_le met)
      · cases refused.symm.trans given
      · cases refused.symm.trans overflowed
    · intro exhausting
      exact ⟨_, asked.trans (quote_of_exhausting native leaves exhausting)⟩
  case enough => exact Nat.le.intro (add_required met)
  case oversize =>
    rw [asked]
    obtain ⟨offerSmall, spreadSmall, given⟩ | ⟨large, overflowed⟩ := quote_decided native leaves met
    · refine iff_of_false ?_ (not_or.2 ⟨Nat.not_lt.2 offerSmall, Nat.not_lt.2 spreadSmall⟩)
      rintro ⟨cause, refused⟩
      cases refused.symm.trans given
    · exact iff_of_true overflowed large
  case given =>
    rintro ⟨offerSmall, spreadSmall⟩
    rw [asked]
    obtain ⟨-, -, given⟩ | ⟨large, -⟩ := quote_decided native leaves met
    · exact ⟨_, given, rfl, rfl⟩
    · exact absurd large (not_or.2 ⟨Nat.not_lt.2 offerSmall, Nat.not_lt.2 spreadSmall⟩)
  case others =>
    rw [asked]
    have legible : ¬ Illegible [offerPool, askPool, ask, rate.nom, rate.denom] := by
      simp [legible_of_le_amountMax native.offerSmall, legible_of_le_amountMax native.askSmall,
        legible_of_le_amountMax native.wantedSmall, legible_of_le_amountMax native.denomSmall,
        legible_of_le_amountMax (rate.nom_le.trans native.denomSmall)]
    exact failsOnly_quote .overflow .degenerate fun long => absurd long legible

/-- All but one coin of a full reserve is bought with an amount, but against a single coin its
    price times that amount is beyond 256 bits. The whole reserve cannot be bought, and a coin of
    it costs nothing. -/
theorem quote_refused_iff_sample :
    let free : CommissionRate := ⟨0, 1, by decide, by decide⟩
    let quoteOf (ask : Nat) := Request.quote (.int (1 : Nat)) (.int amountMax) (.int ask)
      (.int free.nom) (.int free.denom)
    (∀ ask ∈ [amountMax - 1, amountMax, 1], Native 1 amountMax ask free) ∧
      (∃ cause, quoteOf (amountMax - 1) = .error (.overflow cause)) ∧
      (∃ cause, quoteOf amountMax = .error (.degenerate cause)) ∧
      ∃ given, quoteOf 1 = .ok given ∧ given.offer = 0 ∧ given.spread = 0 := by
  intro free quoteOf
  have native : ∀ ask ∈ [amountMax - 1, amountMax, 1], Native 1 amountMax ask free := by
    intro ask listed
    have small : ask ≤ amountMax := by
      revert ask
      decide +kernel
    exact ⟨by decide, by decide +kernel, by decide +kernel, le_rfl, small, by decide +kernel⟩
  have decided (ask : Nat) (listed : ask ∈ [amountMax - 1, amountMax, 1]) :=
    (quote_refused_iff (native ask listed)).2.1 (by decide)
  refine ⟨native, ?nearly, ?whole, ?coin⟩
  case nearly =>
    obtain ⟨-, met⟩ := decided (amountMax - 1) (by simp)
    obtain ⟨-, oversize, -⟩ := met (by decide +kernel)
    exact oversize.2 (.inr (by decide +kernel))
  case whole =>
    obtain ⟨exhausting, -⟩ := decided amountMax (by simp)
    exact exhausting.2 (by decide +kernel)
  case coin =>
    obtain ⟨-, met⟩ := decided 1 (by simp)
    obtain ⟨-, -, given⟩ := met (by decide +kernel)
    obtain ⟨quote, quoted, offer, spread⟩ := given (by decide +kernel)
    exact ⟨quote, quoted, offer.trans (by decide +kernel), spread.trans (by decide +kernel)⟩

end Curve

end VeiledPool
