import VeiledPool.Exchange.Query
import VeiledPool.Proofs.Curve.Failure
import VeiledPool.Proofs.Session.Turn
import VeiledPool.Proofs.Veil
import VeiledPool.Request.Action

/-! # What a report discloses

A report shows the reserves and the share supply under one draw. It is given
exactly if every figure, as shown, is an amount. What it shows is close to the
truth, keeps the order of the figures, and keeps the price up to rounding. A figure
that is too large is an overflow, or an illegible value if it cannot even be named.
-/

namespace VeiledPool

theorem Entropy.observe_of_draw {α : Type} {source rest : Entropy} {draw : UInt64}
    (drawn : source.next = (.ok draw, rest)) (report : Veil → Except Fault α) :
    source.observe report = (report (Veil.ofDraw draw), rest) := by
  rw [observe, drawn]

namespace Veil

variable {draw : UInt64}

theorem coverAsset_ofDraw_eq_ok_iff {asset covered : Asset} :
    (ofDraw draw).coverAsset asset = .ok covered ↔
      shown draw asset.amount ≤ amountMax ∧ covered = ⟨asset.info, shown draw asset.amount⟩ := by
  simp only [coverAsset, bind_eq_ok, cover_ofDraw_eq_ok_iff, pure_eq_ok]
  constructor
  · intro ⟨_, ⟨small, same⟩, made⟩
    subst same
    exact ⟨small, made.symm⟩
  · intro ⟨small, made⟩
    exact ⟨_, ⟨small, rfl⟩, made.symm⟩

theorem coverPools_ofDraw_eq_ok_iff {pools covered : Asset × Asset} :
    (ofDraw draw).coverPools pools = .ok covered ↔
      (shown draw pools.1.amount ≤ amountMax ∧ shown draw pools.2.amount ≤ amountMax) ∧
        covered = (⟨pools.1.info, shown draw pools.1.amount⟩,
          ⟨pools.2.info, shown draw pools.2.amount⟩) := by
  simp only [coverPools, bind_eq_ok, coverAsset_ofDraw_eq_ok_iff, pure_eq_ok]
  constructor
  · intro ⟨_, ⟨small0, first⟩, _, ⟨small1, second⟩, made⟩
    subst first second
    exact ⟨⟨small0, small1⟩, made.symm⟩
  · intro ⟨⟨small0, small1⟩, made⟩
    exact ⟨_, ⟨small0, rfl⟩, _, ⟨small1, rfl⟩, made.symm⟩

theorem legible_of_coverPools {pools covered : Asset × Asset}
    (given : (ofDraw draw).coverPools pools = .ok covered) (side : Side) :
    Legible (side.of covered).amount := by
  obtain ⟨⟨small0, small1⟩, rfl⟩ := coverPools_ofDraw_eq_ok_iff.1 given
  cases side with
  | first => exact legible_of_le_amountMax small0
  | second => exact legible_of_le_amountMax small1

section Failure

variable {allowed : Fault → Prop} (overflows : ∀ cause, allowed (.overflow cause))
include overflows

theorem failsOnly_coverAsset {asset : Asset}
    (illegibles : ¬ Legible asset.amount → allowed (.badValue .illegible)) :
    FailsOnly allowed ((ofDraw draw).coverAsset asset) :=
  failsOnly_bind (failsOnly_cover_ofDraw overflows illegibles) fun _ => failsOnly_ok _

theorem failsOnly_coverPools {pools : Asset × Asset}
    (illegibles : Illegible [pools.1.amount, pools.2.amount] → allowed (.badValue .illegible)) :
    FailsOnly allowed ((ofDraw draw).coverPools pools) :=
  failsOnly_bind (failsOnly_coverAsset overflows fun long => illegibles (by simp [long]))
    fun _ => failsOnly_bind (failsOnly_coverAsset overflows fun long => illegibles (by simp [long]))
    fun _ => failsOnly_ok _

end Failure

end Veil

namespace Exchange

def fillUnder (ledger : Ledger) (rate : CommissionRate) (pair : Pair) (side : Side) (offer : Nat)
    (veil : Veil) : Except Fault Curve.Fill := do
  let pools ← veil.coverPools (ledger.pools pair)
  Curve.guardedFill (side.of pools).amount (side.other.of pools).amount offer rate

def quoteUnder (ledger : Ledger) (rate : CommissionRate) (pair : Pair) (side : Side) (ask : Nat)
    (veil : Veil) : Except Fault Curve.Quote := do
  let pools ← veil.coverPools (ledger.pools pair)
  Curve.quote (side.other.of pools).amount (side.of pools).amount ask rate

theorem simulate_eq_observe {pair : Pair} {side : Side} {offer : Asset} (ledger : Ledger)
    (rate : CommissionRate) (sided : pair.sideOf offer.info = .ok side) (source : Entropy) :
    simulate ledger rate pair offer source =
      source.observe (fillUnder ledger rate pair side offer.amount) := by
  rw [simulate, sided]
  rfl

theorem reverseSimulate_eq_observe {pair : Pair} {side : Side} {ask : Asset} (ledger : Ledger)
    (rate : CommissionRate) (sided : pair.sideOf ask.info = .ok side) (source : Entropy) :
    reverseSimulate ledger rate pair ask source =
      source.observe (quoteUnder ledger rate pair side ask.amount) := by
  rw [reverseSimulate, sided]
  rfl

section Failure

variable {ledger : Ledger} {rate : CommissionRate} {pair : Pair} {side : Side} {draw : UInt64}
  {allowed : Fault → Prop} (overflows : ∀ cause, allowed (.overflow cause))
  (degenerates : ∀ cause, allowed (.degenerate cause))
include overflows degenerates

/-- What the veil shows is legible, so a simulation only fails to name what it was given. -/
theorem failsOnly_fillUnder {offer : Nat}
    (illegibles : Illegible [(ledger.pool pair .first).amount, (ledger.pool pair .second).amount,
      offer, rate.nom, rate.denom] → allowed (.badValue .illegible)) :
    FailsOnly allowed (fillUnder ledger rate pair side offer (Veil.ofDraw draw)) := by
  refine failsOnly_bind_of_ok (Veil.failsOnly_coverPools overflows fun long => illegibles
    (long.of_covered (by simp [Ledger.pools]))) fun pools covered => ?_
  have shown := Veil.legible_of_coverPools covered
  exact Curve.failsOnly_guardedFill overflows degenerates fun long => illegibles
    (long.of_covered (by simp [shown]))

theorem failsOnly_quoteUnder {ask : Nat}
    (illegibles : Illegible [(ledger.pool pair .first).amount, (ledger.pool pair .second).amount,
      ask, rate.nom, rate.denom] → allowed (.badValue .illegible)) :
    FailsOnly allowed (quoteUnder ledger rate pair side ask (Veil.ofDraw draw)) := by
  refine failsOnly_bind_of_ok (Veil.failsOnly_coverPools overflows fun long => illegibles
    (long.of_covered (by simp [Ledger.pools]))) fun pools covered => ?_
  have shown := Veil.legible_of_coverPools covered
  exact Curve.failsOnly_quote overflows degenerates fun long => illegibles
    (long.of_covered (by simp [shown]))

end Failure

def figures (pools : Asset × Asset) (totalShare : Nat) : List Nat :=
  [pools.1.amount, pools.2.amount, totalShare]

def PoolReport.figures (report : PoolReport) : List Nat :=
  [report.assets.1.amount, report.assets.2.amount, report.totalShare]

/-- How a report under a draw relates to what it is about. -/
structure Discloses (draw : UInt64) (pools : Asset × Asset) (totalShare : Nat)
    (report : PoolReport) : Prop where
  infos : report.assets.1.info = pools.1.info ∧ report.assets.2.info = pools.2.info
  scaled : ∀ figure shown, (figure, shown) ∈ (figures pools totalShare).zip report.figures →
    shown * 10000 ≤ figure * Veil.parts draw ∧ figure * Veil.parts draw < (shown + 1) * 10000
  close : ∀ figure shown, (figure, shown) ∈ (figures pools totalShare).zip report.figures →
    ((10000 * shown : Int) - 10000 * figure).natAbs ≤ 99 * figure + 9999
  ordered : ∀ smaller smallerShown larger largerShown,
    (smaller, smallerShown) ∈ (figures pools totalShare).zip report.figures →
    (larger, largerShown) ∈ (figures pools totalShare).zip report.figures →
    smaller ≤ larger → smallerShown ≤ largerShown
  priced : 0 < pools.1.amount → 0 < pools.2.amount →
    -(pools.2.amount : Int) <
        report.assets.1.amount * pools.2.amount - report.assets.2.amount * pools.1.amount ∧
      (report.assets.1.amount * pools.2.amount - report.assets.2.amount * pools.1.amount : Int) <
        pools.1.amount

/-- What can be said of the answer to whoever asks for a report. -/
structure Faithful (draw : UInt64) (pools : Asset × Asset) (totalShare : Nat)
    (answer : Except Fault PoolReport) : Prop where
  granted : (∃ report, answer = .ok report) ↔
    ∀ figure ∈ figures pools totalShare, figure * Veil.parts draw / 10000 ≤ amountMax
  refused : ∀ fault, answer = .error fault →
    fault.RaisedAs .overflow ((figures pools totalShare).map Int.ofNat)
  disclosed : ∀ report, answer = .ok report → Discloses draw pools totalShare report

variable {source rest : Entropy} {draw : UInt64} {pools : Asset × Asset} {totalShare : Nat}
  {report : PoolReport}

theorem reportUnder_ofDraw_eq_ok_iff :
    reportUnder pools totalShare (Veil.ofDraw draw) = .ok report ↔
      (∀ figure ∈ figures pools totalShare, Veil.shown draw figure ≤ amountMax) ∧
        report = ⟨(⟨pools.1.info, Veil.shown draw pools.1.amount⟩,
          ⟨pools.2.info, Veil.shown draw pools.2.amount⟩), Veil.shown draw totalShare⟩ := by
  simp only [reportUnder, bind_eq_ok, Veil.coverPools_ofDraw_eq_ok_iff,
    Veil.cover_ofDraw_eq_ok_iff, pure_eq_ok, figures, List.forall_mem_cons,
    List.not_mem_nil, false_imp_iff, implies_true, and_true]
  constructor
  · intro ⟨_, ⟨⟨small0, small1⟩, covered⟩, _, ⟨smallShare, same⟩, made⟩
    subst covered same
    exact ⟨⟨small0, small1, smallShare⟩, made.symm⟩
  · intro ⟨⟨small0, small1, smallShare⟩, made⟩
    exact ⟨_, ⟨⟨small0, small1⟩, rfl⟩, _, ⟨smallShare, rfl⟩, made.symm⟩

theorem failsOnly_reportUnder {allowed : Fault → Prop}
    (overflows : ∀ cause, allowed (.overflow cause))
    (illegibles : Illegible ((figures pools totalShare).map Int.ofNat) →
      allowed (.badValue .illegible)) :
    FailsOnly allowed (reportUnder pools totalShare (Veil.ofDraw draw)) := by
  refine failsOnly_bind (Veil.failsOnly_coverPools overflows fun long => ?_) fun _ =>
    failsOnly_bind (Veil.failsOnly_cover_ofDraw overflows fun long => ?_) fun _ => failsOnly_ok _
  · exact illegibles (long.of_covered (by simp [figures]))
  · exact illegibles (by simp [figures, long])

theorem shown_of_mem_zip {figure shown : Nat} {pools : Asset × Asset}
    (listed : (figure, shown) ∈ (figures pools totalShare).zip
      [Veil.shown draw pools.1.amount, Veil.shown draw pools.2.amount,
        Veil.shown draw totalShare]) :
    shown = Veil.shown draw figure := by
  simp only [figures, List.zip_cons_cons, List.zip_nil_right, List.mem_cons, Prod.mk.injEq,
    List.not_mem_nil, or_false] at listed
  rcases listed with ⟨here, same⟩ | ⟨here, same⟩ | ⟨here, same⟩ <;> rw [same, here]

theorem discloses_of_reportUnder
    (reported : reportUnder pools totalShare (Veil.ofDraw draw) = .ok report) :
    Discloses draw pools totalShare report := by
  obtain ⟨-, made⟩ := reportUnder_ofDraw_eq_ok_iff.1 reported
  subst made
  refine ⟨⟨rfl, rfl⟩, ?_, ?_, ?_, ?_⟩
  · intro figure shown listed
    rw [shown_of_mem_zip listed]
    exact ⟨Veil.shown_mul_le draw figure, Veil.lt_shown_succ_mul draw figure⟩
  · intro figure shown listed
    have close := Veil.shown_close draw figure
    rw [← shown_of_mem_zip listed] at close
    omega
  · intro smaller smallerShown larger largerShown first second le
    rw [shown_of_mem_zip first, shown_of_mem_zip second]
    exact Veil.shown_mono le
  · intro funded0 funded1
    have above := Veil.shown_cross draw pools.2.amount funded0
    have below := Veil.shown_cross draw pools.1.amount funded1
    rw [Nat.succ_mul] at above below
    simp only
    constructor <;> omega

theorem faithful_reportUnder (draw : UInt64) (pools : Asset × Asset) (totalShare : Nat) :
    Faithful draw pools totalShare (reportUnder pools totalShare (Veil.ofDraw draw)) where
  granted := by
    constructor
    · intro ⟨report, reported⟩
      exact (reportUnder_ofDraw_eq_ok_iff.1 reported).1
    · intro small
      exact ⟨_, reportUnder_ofDraw_eq_ok_iff.2 ⟨small, rfl⟩⟩
  refused := failsOnly_reportUnder raisedAs_kind raisedAs_illegible
  disclosed _ := discloses_of_reportUnder

theorem request_reportUnder (pools : Asset × Asset) (totalShare : Int) (veil : Veil) :
    Request.reportUnder pools (some (.int totalShare)) veil =
      (fun report => (report.assets, some report.totalShare)) <$>
        reportUnder pools totalShare veil := by
  unfold Request.reportUnder reportUnder
  cases veil.coverPools pools with
  | error fault => rfl
  | ok assets =>
    simp only [ok_bind, Scalar.integer]
    cases veil.cover totalShare with
    | error fault => rfl
    | ok share => rfl

end Exchange

end VeiledPool
