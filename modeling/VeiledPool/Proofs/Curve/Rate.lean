import VeiledPool.Curve.Rate

/-! # Terms of a rate

A rate and its two terms determine each other, and the terms of a rate pass every
check of a rate.
-/

namespace VeiledPool.CommissionRate

variable {notPositive : Int → Fault} {nom denom : Int} {rate : CommissionRate}

theorem check_eq_ok_iff :
    check notPositive nom denom = .ok rate ↔ (rate.nom : Int) = nom ∧ (rate.denom : Int) = denom := by
  have positive := rate.denom_pos
  have bounded := rate.nom_le
  constructor
  · intro checked
    unfold check at checked
    split at checked
    · cases checked
    · split at checked
      · cases checked
        simp only
        omega
      · cases checked
  · rintro ⟨rfl, rfl⟩
    have nonzero : ¬ (rate.denom : Int) ≤ 0 := by omega
    have ordered : 0 ≤ (rate.nom : Int) ∧ (rate.nom : Int) ≤ rate.denom := by omega
    rw [check, dif_neg nonzero, dif_pos ordered]
    rfl

theorem eq_of_terms {rate other : CommissionRate} (nom : (rate.nom : Int) = other.nom)
    (denom : (rate.denom : Int) = other.denom) : rate = other := by
  cases rate
  cases other
  simp only [mk.injEq]
  exact ⟨Int.ofNat_inj.1 nom, Int.ofNat_inj.1 denom⟩

theorem ofTerms_self (rate : CommissionRate) : ofTerms rate.nom rate.denom = .ok rate :=
  check_eq_ok_iff.2 ⟨rfl, rfl⟩

theorem forPricing_self (rate : CommissionRate) : forPricing rate.nom rate.denom = .ok rate :=
  check_eq_ok_iff.2 ⟨rfl, rfl⟩

end VeiledPool.CommissionRate
