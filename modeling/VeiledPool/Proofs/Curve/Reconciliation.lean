import VeiledPool.Proofs.Curve.Inverse

/-! # The commission of a quote

A quote adds the commission back to the request and then states the commission on
the result. The two need not agree, since each is rounded. To a quote the rate is
`CommissionRate.rounded`, a whole number of atoms; charged at that rate, what the
request comes to leaves no more than was asked for, and little less: a unit, and
another one for each 10^18 units of the request. Of a moderate request it leaves
exactly what was asked for.
-/

namespace VeiledPool

namespace CommissionRate

open Fixed (unit)

theorem atoms_le (rate : CommissionRate) : rate.atoms ≤ unit := by
  apply Nat.div_le_of_le_mul
  exact Nat.mul_le_mul_right unit rate.nom_le

/-- The rate in whole atoms, as it is charged in a quote. -/
def rounded (rate : CommissionRate) : CommissionRate :=
  ⟨rate.atoms, unit, Fixed.unit_pos, rate.atoms_le⟩

@[simp]
theorem atoms_rounded (rate : CommissionRate) : rate.rounded.atoms = rate.atoms :=
  Nat.mul_div_cancel _ Fixed.unit_pos

theorem mul_le_netOf_mul (rate : CommissionRate) (gross : Nat) :
    gross * (rate.denom - rate.nom) ≤ rate.netOf gross * rate.denom := by
  have charged : rate.feeOn gross * rate.denom ≤ gross * rate.nom := Nat.div_mul_le_self _ _
  rw [netOf, Nat.mul_sub, Nat.sub_mul]
  exact Nat.sub_le_sub_left charged _

end CommissionRate

namespace Curve

open Fixed (unit)

variable {ask : Nat} {rate : CommissionRate}

@[simp]
theorem grossedUp_rounded (ask : Nat) (rate : CommissionRate) :
    grossedUp ask rate.rounded = grossedUp ask rate := by
  rw [grossedUp, grossedUp, CommissionRate.atoms_rounded]

theorem netOf_grossedUp_le (ask : Nat) (rate : CommissionRate) :
    rate.rounded.netOf (grossedUp ask rate) ≤ ask := by
  rw [← grossedUp_rounded]
  exact CommissionRate.netOf_le (grossedUp_mul_le ask rate.rounded)

/-- What is lost to the roundings is less than a unit and an atom for each unit of the request. -/
theorem lt_netOf_grossedUp_mul (ask : Nat) (leaves : rate.atoms < unit) :
    ask * unit < (rate.rounded.netOf (grossedUp ask rate) + 1) * unit + ask := by
  have short := lt_grossedUp_mul_add ask leaves
  have kept : grossedUp ask rate * (unit - rate.atoms) ≤
      rate.rounded.netOf (grossedUp ask rate) * unit :=
    rate.rounded.mul_le_netOf_mul _
  have part : unit - rate.atoms ≤ unit := Nat.sub_le _ _
  generalize unit - rate.atoms = left at *
  generalize rate.rounded.netOf (grossedUp ask rate) = net at *
  refine Nat.lt_of_mul_lt_mul_right (a := unit) ?_
  calc ask * unit * unit
      < grossedUp ask rate * left * unit + (unit + ask) * left := short
    _ ≤ net * unit * unit + (unit + ask) * unit :=
        Nat.add_le_add (Nat.mul_le_mul_right _ kept) (Nat.mul_le_mul_left _ part)
    _ = ((net + 1) * unit + ask) * unit := by ring

theorem le_netOf_grossedUp_add (ask : Nat) (leaves : rate.atoms < unit) :
    ask ≤ rate.rounded.netOf (grossedUp ask rate) + 1 + ask / unit := by
  have short := lt_netOf_grossedUp_mul ask leaves
  generalize rate.rounded.netOf (grossedUp ask rate) = net at *
  have lost : ask - (net + 1) ≤ ask / unit := by
    rw [Nat.le_div_iff_mul_le Fixed.unit_pos, Nat.sub_mul]
    omega
  omega

/-- There is no commission, or the request has no more units than there are atoms in the ratio of
    the commission to what it leaves. -/
def Moderate (ask : Nat) (rate : CommissionRate) : Prop :=
  rate.nom = 0 ∨ ask * (unit - rate.atoms) ≤ unit * rate.atoms

theorem Moderate.recoverable (moderate : Moderate ask rate) : Recoverable ask rate.rounded := by
  cases moderate with
  | inl free =>
    refine .inl ?_
    simp [CommissionRate.rounded, CommissionRate.atoms, free]
  | inr moderate =>
    have charge : rate.rounded.nom * unit / rate.rounded.denom = rate.atoms := rate.atoms_rounded
    refine .inr ⟨Nat.dvd_mul_left _ _, ?_⟩
    rw [charge]
    exact moderate

theorem netOf_grossedUp_of_moderate (leaves : rate.atoms < unit) (moderate : Moderate ask rate) :
    rate.rounded.netOf (grossedUp ask rate) = ask := by
  have leavesRounded : rate.rounded.atoms < unit := by
    rw [CommissionRate.atoms_rounded]
    exact leaves
  have enough : ask ≤ rate.rounded.netOf (grossedUp ask rate.rounded) :=
    le_netOf_grossedUp leavesRounded moderate.recoverable
  rw [grossedUp_rounded] at enough
  exact Nat.le_antisymm (netOf_grossedUp_le ask rate) enough

/-- What a quote says of the request that it was made for and of the commission on it. -/
structure Reconciles (ask : Nat) (rate : CommissionRate) (quote : Quote) : Prop where
  before : quote.beforeCommission = ask * (unit * unit / (unit - rate.atoms)) / unit
  commission : quote.commission = quote.beforeCommission * rate.atoms / unit
  /-- The exact request before commission is never exceeded. -/
  understated : quote.beforeCommission * (rate.denom - rate.nom) ≤ ask * rate.denom
  shortfall_nonneg : 0 ≤ (ask : Int) - (quote.beforeCommission - quote.commission)
  shortfall_le : (ask : Int) - (quote.beforeCommission - quote.commission) ≤ ask / unit + 1
  balanced : Moderate ask rate → ask + quote.commission = quote.beforeCommission

theorem reconciles_exactQuote (offerPool askPool : Nat) (leaves : rate.atoms < unit) :
    Reconciles ask rate (exactQuote offerPool askPool ask rate) := by
  have never := netOf_grossedUp_le ask rate
  have nearly := le_netOf_grossedUp_add ask leaves
  have parts : rate.rounded.netOf (grossedUp ask rate) +
      rate.rounded.feeOn (grossedUp ask rate) = grossedUp ask rate :=
    Nat.sub_add_cancel (rate.rounded.feeOn_le _)
  have stated : (exactQuote offerPool askPool ask rate).commission =
      rate.rounded.feeOn (grossedUp ask rate) := rfl
  have added : (exactQuote offerPool askPool ask rate).beforeCommission = grossedUp ask rate := rfl
  refine ⟨rfl, rfl, grossedUp_mul_le ask rate, ?_, ?_, fun moderate => ?_⟩
  · rw [stated, added]
    omega
  · rw [stated, added]
    omega
  · have kept := netOf_grossedUp_of_moderate leaves moderate
    rw [stated, added]
    omega

/-- Where a quote is given, its request is not overstated before commission, and the commission
    that it states leaves the request or, if that is not moderate, a bounded amount less. -/
theorem commission_reconciles {offerPool askPool ask nom denom : Scalar} {quote : Quote}
    (quoted : Request.quote offerPool askPool ask nom denom = .ok quote) :
    ∃ (wanted : Nat) (rate : CommissionRate), ask = .int wanted ∧
      (nom = .int rate.nom ∧ denom = .int rate.denom) ∧ Reconciles wanted rate quote := by
  obtain ⟨offerAmount, askAmount, wanted, rate, -, -, asked, terms, given⟩ :=
    Request.quote_eq_ok_iff.1 quoted
  obtain ⟨quotable, rfl⟩ := quote_eq_exactQuote given
  exact ⟨wanted, rate, asked, terms, reconciles_exactQuote _ _ quotable.leaves⟩

/-- A request at the standard rate that is just moderate, and one that is so large that the stated
    commission leaves two units less. -/
theorem commission_reconciles_sample :
    ∃ moderate large,
      Request.quote (.int (10 ^ 20)) (.int (10 ^ 20)) (.int 3009027081243731) (.int 3)
        (.int 1000) = .ok moderate ∧
      Request.quote (.int (10 ^ 20)) (.int (10 ^ 20)) (.int 10008679000366452069) (.int 3)
        (.int 1000) = .ok large ∧
      (Moderate 3009027081243731 .standard ∧
        3009027081243731 + moderate.commission = moderate.beforeCommission) ∧
      (10008679000366452069 : Int) - (large.beforeCommission - large.commission) = 2 ∧
      (10008679000366452069 : Int) - (large.beforeCommission - large.commission) ≤ 11 := by
  have quoted : ∀ wanted ∈ [3009027081243731, 10008679000366452069],
      Request.quote (.int (10 ^ 20)) (.int (10 ^ 20)) (.int (wanted : Nat)) (.int 3)
        (.int 1000) = .ok (exactQuote (10 ^ 20) (10 ^ 20) wanted .standard) := by decide +kernel
  have reconciles : ∀ wanted ∈ [3009027081243731, 10008679000366452069],
      Reconciles wanted .standard (exactQuote (10 ^ 20) (10 ^ 20) wanted .standard) := by
    intro wanted member
    obtain ⟨asked, rate, taken, ⟨nom, denom⟩, reconciles⟩ :=
      commission_reconciles (quoted wanted member)
    simp only [Scalar.int.injEq, Int.ofNat_inj] at taken nom denom
    obtain rfl : CommissionRate.standard = rate := CommissionRate.eq_of_terms nom denom
    rwa [← taken] at reconciles
  have moderate : Moderate 3009027081243731 .standard := .inr (by decide +kernel)
  refine ⟨_, _, quoted _ (by decide), quoted _ (by decide),
    ⟨moderate, (reconciles 3009027081243731 (by decide)).balanced moderate⟩, by decide +kernel, ?_⟩
  exact (reconciles 10008679000366452069 (by decide)).shortfall_le

end Curve

end VeiledPool
