import Mathlib.Data.List.Infix
import VeiledPool.Proofs.Session.Passage

/-! # Liquidity and dilution

What a share stands for never shrinks while nobody trades: on each side the
reserve per share is at least what it was. Deposits round the shares down on both
sides and withdrawals round each refund down, so both steps keep the inequality,
and as long as some shares exist it carries over from step to step.
-/

namespace VeiledPool

def Turn.trades : Turn → Bool
  | act (.swap _) => true
  | _ => false

namespace Session

/-- On each side the reserve per share is at least what it was. -/
def Undiluted (before after : Session) : Prop :=
  ∀ side, before.reserve side * after.supply ≤ after.reserve side * before.supply

variable {before middle after : Session}

theorem Undiluted.refl (session : Session) : Undiluted session session :=
  fun _ => le_rfl

/-- The supply in between has to be positive, or else it tells nothing. -/
theorem Undiluted.trans (first : Undiluted before middle) (second : Undiluted middle after)
    (funded : 0 < middle.supply) : Undiluted before after := by
  intro side
  apply Nat.le_of_mul_le_mul_left _ funded
  calc middle.supply * (before.reserve side * after.supply)
      = before.reserve side * middle.supply * after.supply := by ring
    _ ≤ middle.reserve side * before.supply * after.supply :=
        Nat.mul_le_mul_right _ (first side)
    _ = middle.reserve side * after.supply * before.supply := by ring
    _ ≤ after.reserve side * middle.supply * before.supply :=
        Nat.mul_le_mul_right _ (second side)
    _ = middle.supply * (after.reserve side * before.supply) := by ring

theorem Undiluted.reserve_le (undiluted : Undiluted before after) (funded : 0 < before.supply)
    (restored : before.supply ≤ after.supply) (side : Side) :
    before.reserve side ≤ after.reserve side := by
  apply Nat.le_of_mul_le_mul_right _ funded
  exact (Nat.mul_le_mul_left _ restored).trans (undiluted side)

theorem Undiluted.supply_le (undiluted : Undiluted before after) (side : Side)
    (reserved : 0 < before.reserve side) (restored : after.reserve side ≤ before.reserve side) :
    after.supply ≤ before.supply := by
  apply Nat.le_of_mul_le_mul_left _ reserved
  exact (undiluted side).trans (Nat.mul_le_mul_right _ restored)

theorem Donated.supply (donated : Donated before after) : after.supply = before.supply := by
  simp only [Session.supply, Ledger.totalShare, donated.shares]

theorem Donated.undiluted (donated : Donated before after) : Undiluted before after := by
  intro side
  rw [donated.supply]
  exact Nat.mul_le_mul_right _ (donated.reserves side)

theorem Provided.additional {result : ProvideResult} (provided : Provided before result after)
    (funded : 0 < before.supply) :
    Liquidity.additionalShares result.deposits.1.amount result.deposits.2.amount
      (before.reserve .first) (before.reserve .second) before.supply = .ok result.share := by
  have minted := provided.minted
  rw [Exchange.sharesFor, if_neg funded.ne'] at minted
  exact minted

theorem Provided.undiluted {result : ProvideResult} (provided : Provided before result after)
    (funded : 0 < before.supply) : Undiluted before after := by
  intro side
  have bought : result.share * before.reserve side ≤
      (side.of result.deposits).amount * before.supply := by
    have bounds := Liquidity.mul_le_of_additionalShares (provided.additional funded) side
    cases side <;> exact bounds
  rw [provided.issued, provided.deposited, Nat.mul_add, Nat.add_mul,
    Nat.mul_comm (before.reserve side) result.share]
  exact Nat.add_le_add_left bought _

theorem Withdrawn.undiluted {order : WithdrawOrder} {result : WithdrawResult}
    (withdrawn : Withdrawn before order result after) : Undiluted before after := by
  intro side
  have refund := Liquidity.mul_le_of_withdrawal (withdrawn.paid side)
  have supplied := congrArg (before.reserve side * ·) (withdrawn.burned)
  have reserved := congrArg (· * before.supply) (withdrawn.refunded side)
  simp only [Nat.mul_add, Nat.add_mul] at supplied reserved
  omega

theorem turn_undiluted {session : Session} {turn : Turn}
    (apart : turn.actor? ≠ some session.ledger.account) (untraded : turn.trades = false)
    (funded : 0 < session.supply) :
    Undiluted session (session.turn turn).2 := by
  have passage := passage session turn apart
  generalize session.turn turn = result at passage ⊢
  cases passage with
  | donated unaccepted donated => exact donated.undiluted
  | swapped swapped => cases untraded
  | provided provided => exact provided.undiluted funded
  | withdrawn withdrawn => exact withdrawn.undiluted

theorem run_undiluted {session : Session} {turns : List Turn}
    (others : ∀ turn ∈ turns, turn.trades = false ∧ turn.actor? ≠ some session.ledger.account)
    (funded : ∀ before, before <+: turns → 0 < (session.run before).supply) :
    Undiluted session (session.run turns) := by
  induction turns generalizing session with
  | nil => exact .refl session
  | cons turn rest ih =>
    obtain ⟨untraded, apart⟩ := others turn (by simp)
    have later := turn_later session turn apart
    have first := turn_undiluted apart untraded (funded [] List.nil_prefix)
    have onward : Undiluted (session.turn turn).2 ((session.turn turn).2.run rest) := by
      apply ih
      · intro next member
        rw [later.account]
        exact others next (List.mem_cons_of_mem _ member)
      · intro before part
        exact funded (turn :: before) (List.cons_prefix_cons.2 ⟨rfl, part⟩)
    have between := funded [turn] (List.cons_prefix_cons.2 ⟨rfl, List.nil_prefix⟩)
    exact first.trans onward between

/-- Liquidity changes never dilute. Along every run without trades in which some
    shares always exist the reserve per share does not fall on either side, so a
    run that restores the supply leaves no reserve lower. In particular a deposit
    gives back no more than was deposited when its shares are withdrawn, and a
    withdrawal no more shares than were burned when its refunds are deposited. -/
theorem liquidity_never_dilutes (session : Session) (funded : 0 < session.supply) :
    (∀ turns : List Turn,
      (∀ turn ∈ turns, turn.trades = false ∧ turn.actor? ≠ some session.ledger.account) →
      (∀ before, before <+: turns → 0 < (session.run before).supply) →
      ∀ side,
        session.reserve side * (session.run turns).supply ≤
          (session.run turns).reserve side * session.supply ∧
        ((session.run turns).supply = session.supply →
          session.reserve side ≤ (session.run turns).reserve side)) ∧
    (∀ deposit withdrawal minted paid middle last,
      deposit.sender ≠ session.ledger.account → withdrawal.sender ≠ session.ledger.account →
      session.Accepts (.provide deposit) (.provide minted) middle →
      middle.Accepts (.withdraw withdrawal) (.withdraw paid) last →
      withdrawal.amount ≤ minted.share →
      ∀ side : Side, (side.of paid.refunds).amount ≤ (side.of minted.deposits).amount) ∧
    (∀ withdrawal deposit paid minted middle last,
      withdrawal.sender ≠ session.ledger.account → deposit.sender ≠ session.ledger.account →
      session.Accepts (.withdraw withdrawal) (.withdraw paid) middle →
      0 < middle.supply →
      middle.Accepts (.provide deposit) (.provide minted) last →
      (∀ side : Side, (side.of minted.deposits).amount ≤ (side.of paid.refunds).amount) →
      (minted.share : Int) ≤ withdrawal.amount) := by
  refine ⟨?runs, ?depositFirst, ?withdrawalFirst⟩
  case runs =>
    intro turns others supplied side
    have undiluted := run_undiluted others supplied
    exact ⟨undiluted side, fun restored => undiluted.reserve_le funded restored.ge side⟩
  case depositFirst =>
    intro deposit withdrawal minted paid middle last apart apart' deposited withdrew within side
    have provided := provided_of_accepts apart deposited
    have withdrawn := withdrawn_of_accepts (provided.account ▸ apart') withdrew
    have issued := provided.issued
    have burned := withdrawn.burned
    have undiluted := (provided.undiluted funded).trans withdrawn.undiluted (by omega)
    have kept := undiluted.reserve_le funded (by omega) side
    have raised := provided.deposited side
    have lowered := withdrawn.refunded side
    omega
  case withdrawalFirst =>
    intro withdrawal deposit paid minted middle last apart apart' withdrew supplied deposited within
    have withdrawn := withdrawn_of_accepts apart withdrew
    have provided := provided_of_accepts (withdrawn.account ▸ apart') deposited
    have burned := withdrawn.burned
    have issued := provided.issued
    have undiluted := withdrawn.undiluted.trans (provided.undiluted supplied) supplied
    have raised := provided.deposited .first
    have lowered := withdrawn.refunded .first
    have bounded := within .first
    -- Only a funded pool takes a deposit while shares exist.
    have reserved := (Liquidity.pools_pos_of_additionalShares (provided.additional supplied)).1
    have positive := withdrawn.positive
    have gained := undiluted.supply_le .first (by omega) (by omega)
    omega

def sampleDeposit : ProvideOrder where
  sender := "provider"
  assets := [sampleAsset .first 15, sampleAsset .second 61]

def sampleWithdrawal : WithdrawOrder where
  sender := "provider"
  amount := 30

def sampleRoundTrip : List Turn :=
  [.act (.provide sampleDeposit), .act (.withdraw sampleWithdrawal)]

theorem liquidity_never_dilutes_sample :
    0 < sampleFunded.supply ∧
      (∀ turn ∈ sampleRoundTrip, turn.trades = false ∧
        turn.actor? ≠ some sampleFunded.ledger.account) ∧
      (∀ before ∈ sampleRoundTrip.inits, 0 < (sampleFunded.run before).supply) ∧
      (∀ side, sampleFunded.reserve side * (sampleFunded.run sampleRoundTrip).supply ≤
        (sampleFunded.run sampleRoundTrip).reserve side * sampleFunded.supply) ∧
      ∃ minted paid middle last,
        sampleFunded.Accepts (.provide sampleDeposit) (.provide minted) middle ∧
        middle.Accepts (.withdraw sampleWithdrawal) (.withdraw paid) last ∧
        ∀ side : Side, (side.of paid.refunds).amount ≤ (side.of minted.deposits).amount := by
  have funded : 0 < sampleFunded.supply := by decide +kernel
  have others : ∀ turn ∈ sampleRoundTrip, turn.trades = false ∧
      turn.actor? ≠ some sampleFunded.ledger.account := by
    decide +kernel
  have supplied : ∀ before ∈ sampleRoundTrip.inits, 0 < (sampleFunded.run before).supply := by
    decide +kernel
  obtain ⟨runs, depositFirst, -⟩ := liquidity_never_dilutes sampleFunded funded
  refine ⟨funded, others, supplied, ?undiluted, ?roundTrip⟩
  case undiluted =>
    intro side
    have always : ∀ before, before <+: sampleRoundTrip → 0 < (sampleFunded.run before).supply := by
      intro before part
      exact supplied before ((List.mem_inits _ _).2 part)
    exact (runs _ others always side).1
  case roundTrip =>
    have deposited := accepts_of_reply sampleFunded (.provide sampleDeposit)
      (.provide {
        deposits := (sampleAsset .first 15, sampleAsset .second 61)
        share := 30
        effects := [.transferFrom (sampleAsset .second 61) "provider", .mintShares "provider" 30] })
      (by decide +kernel)
    have withdrew := accepts_of_reply
      (sampleFunded.turn (.act (.provide sampleDeposit))).2 (.withdraw sampleWithdrawal)
      (.withdraw {
        refunds := (sampleAsset .first 15, sampleAsset .second 60)
        burned := 30
        effects := [.burnShares "provider" 30, .transfer (sampleAsset .first 15) "provider",
          .transfer (sampleAsset .second 60) "provider"] })
      (by decide +kernel)
    exact ⟨_, _, _, _, deposited, withdrew, depositFirst sampleDeposit sampleWithdrawal _ _ _ _
      (by decide +kernel) (by decide +kernel) deposited withdrew (by decide)⟩

end Session

end VeiledPool
