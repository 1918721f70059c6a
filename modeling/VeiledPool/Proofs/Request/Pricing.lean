import VeiledPool.Proofs.Curve.Rate
import VeiledPool.Proofs.Fault.Sequence
import VeiledPool.Request.Pricing

/-! # Pricing requests in integers

A request passes the checks of its arguments exactly if they are integers in their
ranges; then it comes to the computation itself.
-/

namespace VeiledPool

theorem Scalar.amount_eq_ok_iff {subject : String} {scalar : Scalar} {value : Nat} :
    scalar.amount subject = .ok value ↔ scalar = .int value := by
  constructor
  · intro read
    obtain ⟨number, integer, checked⟩ := bind_eq_ok.1 read
    cases scalar <;> cases integer
    split at checked
    · cases checked
    · cases checked
      rw [Scalar.int.injEq]
      omega
  · rintro rfl
    have positive : ¬ (value : Int) < 0 := by omega
    simp only [amount, integer, ok_bind, if_neg positive, Int.toNat_natCast]

theorem Scalar.amount_natCast (subject : String) (value : Nat) :
    (Scalar.int value).amount subject = .ok value :=
  amount_eq_ok_iff.2 rfl

theorem Scalar.integer_eq_ok_iff {subject : String} {scalar : Scalar} {value : Int} :
    scalar.integer subject = .ok value ↔ scalar = .int value := by
  cases scalar <;> simp [integer]

namespace Request

theorem rate_eq_ok_iff {nom denom : Scalar} {rate : CommissionRate} :
    Request.rate nom denom = .ok rate ↔ nom = .int rate.nom ∧ denom = .int rate.denom := by
  simp only [Request.rate, bind_eq_ok, Scalar.integer_eq_ok_iff]
  constructor
  · rintro ⟨nom, rfl, denom, rfl, checked⟩
    obtain ⟨nomKept, denomKept⟩ := CommissionRate.check_eq_ok_iff.1 checked
    rw [nomKept, denomKept]
    exact ⟨rfl, rfl⟩
  · rintro ⟨rfl, rfl⟩
    exact ⟨_, rfl, _, rfl, rate.forPricing_self⟩

theorem rate_terms (rate : CommissionRate) :
    Request.rate (.int rate.nom) (.int rate.denom) = .ok rate :=
  rate_eq_ok_iff.2 ⟨rfl, rfl⟩

theorem fill_natCast (offerPool askPool offer : Nat) (rate : CommissionRate) :
    fill (.int offerPool) (.int askPool) (.int offer) (.int rate.nom) (.int rate.denom) =
      Curve.fill offerPool askPool offer rate := by
  simp only [fill, Scalar.amount_natCast, rate_terms, ok_bind]

theorem guardedFill_natCast (offerPool askPool offer : Nat) (rate : CommissionRate) :
    guardedFill (.int offerPool) (.int askPool) (.int offer) (.int rate.nom) (.int rate.denom) =
      Curve.guardedFill offerPool askPool offer rate := by
  simp only [guardedFill, fill_natCast, Curve.guardedFill]

theorem quote_natCast (offerPool askPool ask : Nat) (rate : CommissionRate) :
    quote (.int offerPool) (.int askPool) (.int ask) (.int rate.nom) (.int rate.denom) =
      Curve.quote offerPool askPool ask rate := by
  simp only [quote, Scalar.amount_natCast, rate_terms, ok_bind]

theorem initialShares_natCast (deposit0 deposit1 : Nat) :
    initialShares (.int deposit0) (.int deposit1) = Liquidity.initialShares deposit0 deposit1 := by
  simp only [initialShares, Scalar.amount_natCast, ok_bind]

theorem additionalShares_natCast (deposit0 deposit1 pool0 pool1 totalShare : Nat) :
    additionalShares (.int deposit0) (.int deposit1) (.int pool0) (.int pool1)
        (.int totalShare) =
      Liquidity.additionalShares deposit0 deposit1 pool0 pool1 totalShare := by
  simp only [additionalShares, Scalar.amount_natCast, ok_bind]

theorem withdrawal_natCast (reserve burned totalShare : Nat) :
    withdrawal (.int reserve) (.int burned) (.int totalShare) =
      Liquidity.withdrawal reserve burned totalShare := by
  simp only [withdrawal, Scalar.amount_natCast, ok_bind]

theorem fill_eq_ok_iff {offerPool askPool offer nom denom : Scalar} {fill : Curve.Fill} :
    Request.fill offerPool askPool offer nom denom = .ok fill ↔
      ∃ (offerAmount askAmount offered : Nat) (rate : CommissionRate),
        offerPool = .int offerAmount ∧ askPool = .int askAmount ∧ offer = .int offered ∧
        (nom = .int rate.nom ∧ denom = .int rate.denom) ∧
        Curve.fill offerAmount askAmount offered rate = .ok fill := by
  constructor
  · intro filled
    simp only [Request.fill, bind_eq_ok, Scalar.amount_eq_ok_iff, rate_eq_ok_iff] at filled
    obtain ⟨offerAmount, rfl, askAmount, rfl, offered, rfl, rate, terms, priced⟩ := filled
    exact ⟨offerAmount, askAmount, offered, rate, rfl, rfl, rfl, terms, priced⟩
  · rintro ⟨offerAmount, askAmount, offered, rate, rfl, rfl, rfl, ⟨rfl, rfl⟩, priced⟩
    rwa [fill_natCast]

theorem quote_eq_ok_iff {offerPool askPool ask nom denom : Scalar} {quote : Curve.Quote} :
    Request.quote offerPool askPool ask nom denom = .ok quote ↔
      ∃ (offerAmount askAmount wanted : Nat) (rate : CommissionRate),
        offerPool = .int offerAmount ∧ askPool = .int askAmount ∧ ask = .int wanted ∧
        (nom = .int rate.nom ∧ denom = .int rate.denom) ∧
        Curve.quote offerAmount askAmount wanted rate = .ok quote := by
  simp only [Request.quote, bind_eq_ok, Scalar.amount_eq_ok_iff, rate_eq_ok_iff]
  constructor
  · rintro ⟨offerAmount, offered, askAmount, asked, wanted, wants, rate, terms, quoted⟩
    exact ⟨offerAmount, askAmount, wanted, rate, offered, asked, wants, terms, quoted⟩
  · rintro ⟨offerAmount, askAmount, wanted, rate, offered, asked, wants, terms, quoted⟩
    exact ⟨offerAmount, offered, askAmount, asked, wanted, wants, rate, terms, quoted⟩

end Request

end VeiledPool
