import Mathlib.Tactic.Linarith
import Mathlib.Tactic.Ring
import VeiledPool.Curve.Quote
import VeiledPool.Proofs.Curve.Fill
import VeiledPool.Proofs.Fixed.Natural

/-! # What a quote says

A quote first adds the commission back to the request, by way of a rate and a
reciprocal that are rounded down, and then reads the offer off the product of the
reserves, rounded down again. So the request with its commission is never more
than it should be, and for requests that are not too large it is what it should
be.
-/

namespace VeiledPool

namespace CommissionRate

/-- The rate as a ratio, in atoms and rounded down. -/
def atoms (rate : CommissionRate) : Nat :=
  rate.nom * Fixed.unit / rate.denom

theorem atoms_mul_le (rate : CommissionRate) : rate.atoms * rate.denom ≤ rate.nom * Fixed.unit :=
  Nat.div_mul_le_self _ _

def netOf (rate : CommissionRate) (gross : Nat) : Nat :=
  gross - rate.feeOn gross

theorem netOf_mono (rate : CommissionRate) {less more : Nat} (le : less ≤ more) :
    rate.netOf less ≤ rate.netOf more := by
  -- The commission grows by no more than the output does.
  have grown : rate.feeOn more ≤ rate.feeOn less + (more - less) := by
    rw [feeOn, feeOn, ← Nat.add_mul_div_right _ _ rate.denom_pos]
    apply Nat.div_le_div_right
    have bound := Nat.mul_le_mul_left (more - less) rate.nom_le
    calc more * rate.nom = less * rate.nom + (more - less) * rate.nom := by
          rw [← Nat.add_mul, Nat.add_sub_cancel' le]
      _ ≤ less * rate.nom + (more - less) * rate.denom := by omega
  have charged := rate.feeOn_le less
  simp only [netOf]
  omega

/-- The commission leaves no more than was asked for of an output that is no larger than it
    has to be for that. -/
theorem netOf_le {rate : CommissionRate} {gross ask : Nat}
    (enough : gross * (rate.denom - rate.nom) ≤ ask * rate.denom) : rate.netOf gross ≤ ask := by
  have fee : gross - ask ≤ rate.feeOn gross := by
    rw [feeOn, Nat.le_div_iff_mul_le rate.denom_pos, Nat.sub_mul]
    rw [Nat.mul_sub] at enough
    have ordered := Nat.mul_le_mul_left gross rate.nom_le
    omega
  simp only [netOf]
  omega

end CommissionRate

namespace Curve

open Fixed (unit)

/-- A request with the commission added back: divided by what a unit of gross output leaves. -/
def grossedUp (ask : Nat) (rate : CommissionRate) : Nat :=
  ask * (unit * unit / (unit - rate.atoms)) / unit

/-- The offer that leaves the ask pool smaller by `before`, rounded down. -/
def required (offerPool askPool before : Nat) : Nat :=
  offerPool * askPool / (askPool - before) - offerPool

/-- The quote that the formulas give without regard to any range. -/
def exactQuote (offerPool askPool ask : Nat) (rate : CommissionRate) : Quote :=
  let before := grossedUp ask rate
  let offer := required offerPool askPool before
  { offer
    spread := offer * (askPool * unit / offerPool) / unit - before
    commission := before * rate.atoms / unit
    beforeCommission := before }

/-- What holds wherever a quote is given. -/
structure Quotable (offerPool askPool ask : Nat) (rate : CommissionRate) : Prop where
  offerFunded : 0 < offerPool
  askFunded : 0 < askPool
  /-- Some of the gross output is left after the commission. -/
  leaves : rate.atoms < unit
  /-- The request can be met from the reserve. -/
  met : grossedUp ask rate < askPool

variable {offerPool askPool ask before : Nat} {rate : CommissionRate} {quote : Quote}

theorem add_required (met : before < askPool) :
    offerPool + required offerPool askPool before =
      offerPool * askPool / (askPool - before) := by
  apply Nat.add_sub_cancel'
  rw [Nat.le_div_iff_mul_le (by omega)]
  exact Nat.mul_le_mul_left _ (Nat.sub_le _ _)

theorem required_eq_some_iff {value : Int} (met : before < askPool)
    (product : offerPool * askPool ≤ wideMax) (askSmall : askPool ≤ wideMax) :
    Wide.sub (Wide.div (Wide.lift (offerPool * askPool : Nat))
        (Wide.sub (Wide.lift askPool) (Wide.lift before))) (Wide.lift offerPool) = some value ↔
      value = (required offerPool askPool before : Nat) := by
  have rest : Wide.sub (Wide.lift askPool) (Wide.lift before) =
      Wide.lift (askPool - before : Nat) := by
    rw [Wide.sub_lift_eq_some_iff.2 ⟨askSmall, met.le, rfl⟩, Wide.lift_of_le (by omega)]
  have quotient : Wide.div (Wide.lift (offerPool * askPool : Nat))
      (Wide.lift (askPool - before : Nat)) =
        Wide.lift (offerPool * askPool / (askPool - before) : Nat) := by
    rw [Wide.div_lift_eq_some_iff.2 ⟨product, ⟨by omega, by omega⟩, rfl⟩,
      Wide.lift_of_le ((Nat.div_le_self _ _).trans product)]
  have enough : offerPool ≤ offerPool * askPool / (askPool - before) :=
    Nat.le.intro (add_required met)
  rw [rest, quotient, Wide.sub_lift_eq_some_iff]
  constructor
  · rintro ⟨-, -, rfl⟩
    rfl
  · rintro rfl
    exact ⟨(Nat.div_le_self _ _).trans product, enough, rfl⟩

theorem quote_eq_exactQuote (quoted : Curve.quote offerPool askPool ask rate = .ok quote) :
    Quotable offerPool askPool ask rate ∧ quote = exactQuote offerPool askPool ask rate := by
  unfold Curve.quote at quoted
  split at quoted
  · cases quoted
  rename_i funded
  simp only [bind_eq_ok, Wide.require_eq_ok_iff] at quoted
  -- What is computed before the request is held against the reserve.
  obtain ⟨_, multiplied, _, charged, _, lessened, _, inverted, _, raised, quoted⟩ := quoted
  obtain ⟨-, askSmall, product, rfl⟩ := Wide.mul_lift_eq_some_iff.1 multiplied
  obtain ⟨-, -, rfl⟩ := Fixed.ofRatio_eq_ok_iff.1 charged
  obtain ⟨-, -, rfl⟩ := Fixed.minus_eq_ok_iff.1 lessened
  obtain ⟨⟨leaves, -⟩, rfl⟩ := Fixed.reciprocal_eq_ok_iff.1 inverted
  obtain ⟨-, rfl⟩ := Fixed.scale_eq_ok_iff.1 raised
  have charge : rate.nom * unit / rate.denom = rate.atoms := rfl
  have before : ask * (unit * unit / (Fixed.one.atomics - rate.atoms)) / unit =
      grossedUp ask rate := rfl
  simp only [charge, before] at quoted
  split at quoted
  · cases quoted
  rename_i met
  have quotable : Quotable offerPool askPool ask rate :=
    ⟨by omega, by omega, Nat.lt_of_sub_ne_zero leaves, by omega⟩
  simp only [bind_eq_ok, Wide.require_eq_ok_iff,
    required_eq_some_iff quotable.met product askSmall] at quoted
  -- What is computed after it, from the offer on.
  obtain ⟨_, rfl, _, priced, _, bought, _, kept, _, offer, _, spread, _, commission, made⟩ := quoted
  obtain ⟨-, -, rfl⟩ := Fixed.ofRatio_eq_ok_iff.1 priced
  obtain ⟨-, rfl⟩ := Fixed.scale_eq_ok_iff.1 bought
  obtain ⟨-, rfl⟩ := Fixed.scale_eq_ok_iff.1 kept
  rw [excess_natCast] at spread
  obtain ⟨-, rfl⟩ := narrow_natCast_eq_ok_iff.1 offer
  obtain ⟨-, rfl⟩ := narrow_natCast_eq_ok_iff.1 spread
  obtain ⟨-, rfl⟩ := narrow_natCast_eq_ok_iff.1 commission
  rw [Int.toNat_natCast, pure_eq_ok] at made
  refine ⟨quotable, ?_⟩
  unfold exactQuote
  rw [← made]

/-- Both roundings are downward, so the request with its commission is never overstated. -/
theorem grossedUp_mul_le (ask : Nat) (rate : CommissionRate) :
    grossedUp ask rate * (rate.denom - rate.nom) ≤ ask * rate.denom := by
  have net : grossedUp ask rate * (unit - rate.atoms) ≤ ask * unit :=
    Fixed.scaled_mul_le ask unit (unit - rate.atoms)
  have rounded : unit * (rate.denom - rate.nom) ≤ (unit - rate.atoms) * rate.denom := by
    have charged := rate.atoms_mul_le
    rw [Nat.mul_sub, Nat.sub_mul, Nat.mul_comm unit rate.nom]
    omega
  refine Nat.le_of_mul_le_mul_right ?_ Fixed.unit_pos
  calc grossedUp ask rate * (rate.denom - rate.nom) * unit
      = grossedUp ask rate * (unit * (rate.denom - rate.nom)) := by ring
    _ ≤ grossedUp ask rate * ((unit - rate.atoms) * rate.denom) := Nat.mul_le_mul_left _ rounded
    _ = grossedUp ask rate * (unit - rate.atoms) * rate.denom := (Nat.mul_assoc ..).symm
    _ ≤ ask * unit * rate.denom := Nat.mul_le_mul_right _ net
    _ = ask * rate.denom * unit := Nat.mul_right_comm ..

/-- The reciprocal is short of less than an atom for each unit of the request, and the product of
    less than a unit. -/
theorem lt_grossedUp_mul_add (ask : Nat) (leaves : rate.atoms < unit) :
    ask * unit * unit <
      grossedUp ask rate * (unit - rate.atoms) * unit + (unit + ask) * (unit - rate.atoms) := by
  have scaled : ask * unit * unit <
      ((grossedUp ask rate + 1) * unit + ask) * (unit - rate.atoms) :=
    Fixed.lt_scaled_mul ask unit (Nat.sub_pos_of_lt leaves)
  generalize unit - rate.atoms = left at *
  calc ask * unit * unit
      < ((grossedUp ask rate + 1) * unit + ask) * left := scaled
    _ = grossedUp ask rate * left * unit + (unit + ask) * left := by ring

/-- As long as the commission on a request comes to at least an atom of it, the roundings do
    not take a whole unit off. -/
theorem lt_grossedUp_mul (leaves : rate.atoms < unit)
    (moderate : ask * (unit - rate.atoms) ≤ unit * rate.atoms) :
    ask * unit < grossedUp ask rate * (unit - rate.atoms) + unit := by
  have short := lt_grossedUp_mul_add ask leaves
  have whole : unit - rate.atoms + rate.atoms = unit := Nat.sub_add_cancel leaves.le
  generalize unit - rate.atoms = left at *
  refine Nat.lt_of_mul_lt_mul_right (a := unit) ?_
  calc ask * unit * unit
      < grossedUp ask rate * left * unit + (unit + ask) * left := short
    _ = grossedUp ask rate * left * unit + (unit * left + ask * left) := by rw [Nat.add_mul unit]
    _ ≤ grossedUp ask rate * left * unit + (unit * left + unit * rate.atoms) :=
        Nat.add_le_add_left (Nat.add_le_add_left moderate _) _
    _ = grossedUp ask rate * left * unit + unit * unit := by rw [← Nat.mul_add, whole]
    _ = (grossedUp ask rate * left + unit) * unit := (Nat.add_mul ..).symm

end Curve

end VeiledPool
