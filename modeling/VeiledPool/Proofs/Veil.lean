import Mathlib.Tactic.Ring
import VeiledPool.Proofs.Wide.Range
import VeiledPool.Veil

/-! # What a veil shows

A draw shows every figure multiplied by the same number of ten thousandths,
rounded down. The figure shown exists as far as amounts go, and a ratio of two
figures is shown as exactly as rounding lets it.
-/

namespace VeiledPool.Veil

variable {draw : UInt64} {figure shownAs : Nat}

/-- Ten thousandths of a figure that a draw shows. -/
def parts (draw : UInt64) : Nat :=
  if draw.toNat % 2 = 0 then 10000 + draw.toNat % 100 else 10000 - draw.toNat % 100

/-- A figure of any size under the veil of a draw. -/
def shown (draw : UInt64) (figure : Nat) : Nat :=
  figure * parts draw / 10000

theorem ofDraw_eq (draw : UInt64) : ofDraw draw = ⟨parts draw, (10000 : Nat)⟩ := by
  unfold ofDraw parts scale span
  split <;> rfl

theorem le_parts (draw : UInt64) : 9901 ≤ parts draw := by
  unfold parts
  split <;> omega

theorem parts_le (draw : UInt64) : parts draw ≤ 10099 := by
  unfold parts
  split <;> omega

theorem shown_of_neutral (neutral : draw.toNat % 100 = 0) : shown draw figure = figure := by
  have whole : parts draw = 10000 := by
    unfold parts
    split <;> omega
  rw [shown, whole, Nat.mul_div_cancel figure (by decide)]

theorem shown_mul_le (draw : UInt64) (figure : Nat) :
    shown draw figure * 10000 ≤ figure * parts draw :=
  Nat.div_mul_le_self _ _

theorem lt_shown_succ_mul (draw : UInt64) (figure : Nat) :
    figure * parts draw < (shown draw figure + 1) * 10000 := by
  unfold shown
  omega

theorem shown_mono {smaller larger : Nat} (ordered : smaller ≤ larger) :
    shown draw smaller ≤ shown draw larger :=
  Nat.div_le_div_right (Nat.mul_le_mul_right _ ordered)

theorem shown_close (draw : UInt64) (figure : Nat) :
    shown draw figure * 10000 ≤ figure * 10000 + 99 * figure ∧
      figure * 10000 ≤ shown draw figure * 10000 + 99 * figure + 9999 := by
  have atLeast := Nat.mul_le_mul_left figure (le_parts draw)
  have atMost := Nat.mul_le_mul_left figure (parts_le draw)
  have below := shown_mul_le draw figure
  have above := lt_shown_succ_mul draw figure
  omega

/-- Two figures shown are in their true ratio but for the rounding of one of them. -/
theorem shown_cross (draw : UInt64) {one : Nat} (other : Nat) (positive : 0 < one) :
    shown draw one * other < (shown draw other + 1) * one := by
  have scaled : shown draw one * other * 10000 < (shown draw other + 1) * one * 10000 :=
    calc
      shown draw one * other * 10000 = shown draw one * 10000 * other := by ring
      _ ≤ one * parts draw * other := Nat.mul_le_mul_right _ (shown_mul_le draw one)
      _ = other * parts draw * one := by ring
      _ < (shown draw other + 1) * 10000 * one :=
        Nat.mul_lt_mul_of_pos_right (lt_shown_succ_mul draw other) positive
      _ = (shown draw other + 1) * one * 10000 := by ring
  exact Nat.lt_of_mul_lt_mul_right scaled

/-- A figure that can be shown has a product of 256 bits, so only the result decides. -/
theorem mul_parts_le_wideMax (small : shown draw figure ≤ amountMax) :
    figure * parts draw ≤ wideMax := by
  have above := lt_shown_succ_mul draw figure
  have room : (amountMax + 1) * 10000 ≤ wideMax := by decide +kernel
  have product := Nat.mul_le_mul_right 10000 (Nat.succ_le_succ small)
  exact Nat.le_of_lt (Nat.lt_of_lt_of_le above (Nat.le_trans product room))

theorem cover_ofDraw_eq_ok_iff :
    (ofDraw draw).cover figure = .ok shownAs ↔
      shown draw figure ≤ amountMax ∧ shownAs = shown draw figure := by
  have partsSmall : parts draw ≤ wideMax := Nat.le_trans (parts_le draw) (by decide +kernel)
  have scaleSmall : 10000 ≤ wideMax := by decide +kernel
  simp only [cover, ofDraw_eq, bind_eq_ok, Wide.require_eq_ok_iff, Wide.mulDiv_lift_eq_some_iff]
  constructor
  · intro ⟨_, ⟨_, _, quotient⟩, narrowed⟩
    subst quotient
    exact narrow_natCast_eq_ok_iff.1 narrowed
  · intro ⟨small, same⟩
    have product := mul_parts_le_wideMax small
    have figureSmall : figure ≤ figure * parts draw :=
      Nat.le_mul_of_pos_right _ (Nat.lt_of_lt_of_le (by decide) (le_parts draw))
    exact ⟨_, ⟨⟨Nat.le_trans figureSmall product, partsSmall, product⟩,
      ⟨scaleSmall, by decide⟩, rfl⟩, narrow_natCast_eq_ok_iff.2 ⟨small, same⟩⟩

theorem failsOnly_cover {allowed : Fault → Prop} (overflows : ∀ cause, allowed (.overflow cause))
    {veil : Veil} {amount : Int}
    (illegibles : Illegible [amount, veil.nom, veil.denom] → allowed (.badValue .illegible)) :
    FailsOnly allowed (veil.cover amount) := by
  unfold cover
  refine failsOnly_bind_of_ok (Wide.failsOnly_require overflows illegibles) fun scaled given => ?_
  exact (Wide.InRange.of_proportion given).failsOnly_narrow overflows

theorem failsOnly_cover_ofDraw {allowed : Fault → Prop}
    (overflows : ∀ cause, allowed (.overflow cause)) {amount : Int}
    (illegibles : ¬ Legible amount → allowed (.badValue .illegible)) :
    FailsOnly allowed ((ofDraw draw).cover amount) := by
  have partsLegible : Legible (parts draw) :=
    legible_of_le_wideMax (Nat.le_trans (parts_le draw) (by decide +kernel))
  have scaleLegible : Legible 10000 := by decide +kernel
  refine failsOnly_cover overflows fun long => illegibles ?_
  simpa [ofDraw_eq, partsLegible, scaleLegible] using long

end VeiledPool.Veil
