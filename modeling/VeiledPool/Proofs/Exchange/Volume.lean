import VeiledPool.Proofs.Exchange.Terms
import VeiledPool.Proofs.Session.Turn

/-! # Volumes over runs

A pair is handed from one action to the next, each with a ledger, a rate and a source
of its own. An accepted swap adds its offer to the volume of the side that it offers, and
nothing else ever changes the pair. So a volume is a sum of offers, and since a
swap that would take it out of the range of an amount is rejected, it stays in
this range.
-/

namespace VeiledPool

namespace Report

def next (before : Pair) : Report → Pair
  | accepted pair _ => pair
  | rejected _ => before

def effects : Report → List Effect
  | accepted _ outcome => outcome.effects
  | rejected _ => []

end Report

/-- An action with the ledger, the rate and the source of draws that it is handled under. -/
structure Visit where
  ledger : Ledger
  rate : CommissionRate
  source : Entropy
  action : Action

namespace Visit

def report (visit : Visit) (pair : Pair) : Report :=
  (Exchange.handle visit.ledger visit.rate pair visit.action visit.source).1

/-- What an accepted swap offers of one side. -/
def sold (visit : Visit) (pair : Pair) (side : Side) : Nat :=
  match visit.action, visit.report pair with
  | .swap order, .accepted _ _ =>
    if order.offer.info.id = (pair.info side).id then order.offer.amount else 0
  | _, _ => 0

end Visit

namespace Pair

def visited (pair : Pair) (visit : Visit) : Pair :=
  (visit.report pair).next pair

def toured (pair : Pair) (visits : List Visit) : Pair :=
  visits.foldl visited pair

/-- What all accepted swaps of a run offer of one side. -/
def sold (pair : Pair) (side : Side) : List Visit → Nat
  | [] => 0
  | visit :: rest => visit.sold pair side + (pair.visited visit).sold side rest

variable {pair : Pair} {visit : Visit}

theorem volume_withOffer (pair : Pair) (side other : Side) (amount : Nat) :
    (pair.withOffer side amount).volume other =
      pair.volume other + if other = side then amount else 0 := by
  cases side <;> cases other <;> rfl

theorem withOffer_assets (pair : Pair) (side : Side) (amount : Nat) :
    (pair.withOffer side amount).assets = pair.assets := by
  cases side <;> rfl

theorem withOffer_token (pair : Pair) (side : Side) (amount : Nat) :
    (pair.withOffer side amount).token = pair.token := by
  cases side <;> rfl

theorem info_id_eq_iff {side other : Side} :
    (pair.info side).id = (pair.info other).id ↔ side = other := by
  constructor
  · intro same
    cases side <;> cases other <;>
      first | rfl | exact absurd same (pair.info_id_ne_other _)
  · rintro rfl
    rfl

/-- Every way in which an action can go for the pair. -/
inductive Visited (pair : Pair) (visit : Visit) : Report → Prop where
  | rejected (fault : Fault) : Visited pair visit (.rejected fault)
  /-- A deposit or a withdrawal. -/
  | kept {outcome : Outcome} (liquidity : ∀ order, visit.action ≠ .swap order) :
    Visited pair visit (.accepted pair outcome)
  | counted {order : SwapOrder} {side : Side} {outcome : Outcome}
    (swapping : visit.action = .swap order)
    (offered : order.offer.info.id = (pair.info side).id)
    (fits : pair.volume side + order.offer.amount ≤ amountMax) :
    Visited pair visit (.accepted (pair.withOffer side order.offer.amount) outcome)

theorem visited_report (pair : Pair) (visit : Visit) : Visited pair visit (visit.report pair) := by
  cases reported : visit.report pair with
  | rejected fault => exact .rejected fault
  | accepted next outcome =>
    obtain ⟨performed, rfl⟩ := Exchange.handle_fst_eq_accepted_iff.1 reported
    cases action : visit.action with
    | provide order =>
      rw [action] at performed
      obtain ⟨result, -, rfl⟩ := map_eq_ok.1 performed
      exact .kept (by simp [action])
    | withdraw order =>
      rw [action] at performed
      obtain ⟨result, -, rfl⟩ := map_eq_ok.1 performed
      exact .kept (by simp [action])
    | unreadable fault =>
      rw [action] at performed
      cases performed
    | swap order =>
      rw [action] at performed
      obtain ⟨result, accepted, rfl⟩ := map_eq_ok.1 performed
      -- The volume is counted last, after the guards, so an accepted swap has room for its offer.
      obtain ⟨side, fill, terms⟩ := Exchange.swap_eq_ok_iff.1 accepted
      obtain ⟨fits, counted⟩ := addVolume_eq_ok_iff.1 terms.counted
      have next : (Outcome.swap result).pairAfter pair =
          pair.withOffer side order.offer.amount := counted
      rw [next]
      exact .counted action terms.offered fits

/-- An action leaves the pair as it is and sells nothing, or counts what it sells of one side. -/
theorem visited_cases (pair : Pair) (visit : Visit) :
    (pair.visited visit = pair ∧ ∀ side, visit.sold pair side = 0) ∨
      ∃ side amount, pair.visited visit = pair.withOffer side amount ∧
        (∀ other, visit.sold pair other = if other = side then amount else 0) ∧
        pair.volume side + amount ≤ amountMax := by
  have way := visited_report pair visit
  unfold visited Visit.sold
  generalize visit.report pair = report at way ⊢
  cases way with
  | rejected fault =>
    refine .inl ⟨rfl, fun side => ?_⟩
    cases visit.action <;> rfl
  | kept liquidity =>
    refine .inl ⟨rfl, fun side => ?_⟩
    split
    · rename_i order _ _ swapping _
      exact absurd swapping (liquidity order)
    · rfl
  | counted swapping offered fits =>
    refine .inr ⟨_, _, rfl, fun other => ?_, fits⟩
    rw [swapping]
    simp only [offered, info_id_eq_iff, eq_comm]

/-- The assets and the token of a pair are there to stay. -/
theorem visited_same (pair : Pair) (visit : Visit) :
    (pair.visited visit).assets = pair.assets ∧ (pair.visited visit).token = pair.token := by
  obtain ⟨kept, -⟩ | ⟨side, amount, counted, -⟩ := pair.visited_cases visit
  · rw [kept]
    exact ⟨rfl, rfl⟩
  · rw [counted]
    exact ⟨withOffer_assets .., withOffer_token ..⟩

theorem volume_visited (pair : Pair) (visit : Visit) (side : Side) :
    (pair.visited visit).volume side = pair.volume side + visit.sold pair side := by
  obtain ⟨kept, sold⟩ | ⟨offerSide, amount, counted, sold, -⟩ := pair.visited_cases visit
  · rw [kept, sold, Nat.add_zero]
  · rw [counted, sold, volume_withOffer]

theorem visited_native (native : ∀ side, pair.volume side ≤ amountMax) (visit : Visit)
    (side : Side) : (pair.visited visit).volume side ≤ amountMax := by
  obtain ⟨kept, -⟩ | ⟨offerSide, amount, counted, -, fits⟩ := pair.visited_cases visit
  · rw [kept]
    exact native side
  · rw [counted, volume_withOffer]
    by_cases here : side = offerSide
    · rw [if_pos here, here]
      exact fits
    · rw [if_neg here]
      exact native side

theorem toured_same (pair : Pair) (visits : List Visit) :
    (pair.toured visits).assets = pair.assets ∧ (pair.toured visits).token = pair.token := by
  -- A run goes on from the pair that its first action leaves, so the pair has to be arbitrary.
  induction visits generalizing pair with
  | nil => exact ⟨rfl, rfl⟩
  | cons visit rest ih =>
    obtain ⟨assets, token⟩ := pair.visited_same visit
    obtain ⟨restAssets, restToken⟩ := ih (pair.visited visit)
    exact ⟨restAssets.trans assets, restToken.trans token⟩

theorem volume_toured (pair : Pair) (visits : List Visit) (side : Side) :
    (pair.toured visits).volume side = pair.volume side + pair.sold side visits := by
  -- What the rest of the run sells is reckoned from the pair after the first action.
  induction visits generalizing pair with
  | nil => rfl
  | cons visit rest ih =>
    rw [sold, ← Nat.add_assoc, ← pair.volume_visited]
    exact ih (pair.visited visit)

theorem toured_native (native : ∀ side, pair.volume side ≤ amountMax) (visits : List Visit) :
    ∀ side, (pair.toured visits).volume side ≤ amountMax := by
  induction visits generalizing pair with
  | nil => exact native
  | cons visit rest ih => exact ih (visited_native native visit)

structure Counts (pair : Pair) (visit : Visit) : Prop where
  /-- An accepted deposit or withdrawal leaves the pair as it is. -/
  liquidity : (∀ order, visit.action ≠ .swap order) → ∀ next outcome,
    visit.report pair = .accepted next outcome → ∀ side, next.volume side = pair.volume side
  /-- An accepted swap counts its offer, whatever it returns. -/
  swap : ∀ order, visit.action = .swap order → ∀ next outcome,
    visit.report pair = .accepted next outcome → ∃ side,
      order.offer.info.id = (pair.info side).id ∧
        next.volume side = pair.volume side + order.offer.amount ∧
        next.volume side.other = pair.volume side.other
  /-- A swap that cannot be counted is rejected. -/
  full : ∀ order, visit.action = .swap order → ∀ side,
    order.offer.info.id = (pair.info side).id →
    amountMax < pair.volume side + order.offer.amount →
      (∃ fault, visit.report pair = .rejected fault) ∧ (visit.report pair).effects = []

theorem counts (pair : Pair) (visit : Visit) : Counts pair visit := by
  have way := visited_report pair visit
  constructor
  case liquidity =>
    intro liquidity next outcome accepted side
    rw [accepted] at way
    cases way with
    | kept others => rfl
    | counted swapping offered fits => exact absurd swapping (liquidity _)
  case swap =>
    intro order swapping next outcome accepted
    rw [accepted] at way
    cases way with
    | kept others => exact absurd swapping (others order)
    | @counted order' side outcome counted offered fits =>
      cases swapping.symm.trans counted
      refine ⟨side, offered, ?_, ?_⟩
      · rw [volume_withOffer, if_pos rfl]
      · rw [volume_withOffer, if_neg side.other_ne, Nat.add_zero]
  case full =>
    intro order swapping side offered large
    generalize visit.report pair = report at way ⊢
    cases way with
    | rejected fault => exact ⟨⟨fault, rfl⟩, rfl⟩
    | kept others => exact absurd swapping (others order)
    | counted counted elsewhere fits =>
      cases swapping.symm.trans counted
      cases info_id_eq_iff.1 (offered.symm.trans elsewhere)
      exact absurd fits (Nat.not_le.2 large)

/-- On every run a pair keeps its assets and its token, and each volume is what it was at the
    start plus all that accepted swaps offered of its side. It never leaves the range of an
    amount, and every further action counts as it should. -/
theorem volumes_add_up (pair : Pair) (native : ∀ side, pair.volume side ≤ amountMax)
    (visits : List Visit) :
    ((pair.toured visits).assets = pair.assets ∧ (pair.toured visits).token = pair.token) ∧
      (∀ side, (pair.toured visits).volume side = pair.volume side + pair.sold side visits ∧
        (pair.toured visits).volume side ≤ amountMax) ∧
      ∀ visit, Counts (pair.toured visits) visit := by
  refine ⟨pair.toured_same visits, fun side => ⟨?total, ?range⟩, fun visit => counts _ visit⟩
  case total => exact pair.volume_toured visits side
  case range => exact toured_native native visits side

/-- A pair that has room for six hundred more tokens. -/
def sampleBusy : Pair :=
  { Session.sample.pair with volume1 := amountMax - 600 }

def sampleVisit (action : Action) : Visit :=
  ⟨Session.sampleFunded.ledger, .standard, .script [] 0, action⟩

def sampleSwap (side : Side) (amount : Nat) : SwapOrder :=
  { sender := "trader", offer := Session.sampleAsset side amount }

/-- A swap that returns nothing, a withdrawal, a swap, one for which there is no room, and one
    on the other side. -/
def sampleVisits : List Visit :=
  [sampleVisit (.swap (sampleSwap .second 1)), sampleVisit (.withdraw ⟨"provider", 10⟩),
    sampleVisit (.swap (sampleSwap .second 500)), sampleVisit (.swap (sampleSwap .second 200)),
    sampleVisit (.swap (sampleSwap .first 40))]

theorem volumes_add_up_sample :
    (∀ side, sampleBusy.volume side ≤ amountMax) ∧
      (sampleBusy.toured sampleVisits).volume .second = amountMax - 99 ∧
      (sampleBusy.toured sampleVisits).volume .first = 40 ∧
      ∃ fault, (sampleVisit (.swap (sampleSwap .second 100))).report
        (sampleBusy.toured sampleVisits) = .rejected fault := by
  have native : ∀ side, sampleBusy.volume side ≤ amountMax := by
    intro side
    cases side <;> decide +kernel
  obtain ⟨⟨assets, -⟩, volumes, counts⟩ := volumes_add_up sampleBusy native sampleVisits
  have second : (sampleBusy.toured sampleVisits).volume .second = amountMax - 99 :=
    (volumes .second).1.trans (by decide +kernel)
  have first : (sampleBusy.toured sampleVisits).volume .first = 40 :=
    (volumes .first).1.trans (by decide +kernel)
  have offered : (sampleSwap .second 100).offer.info.id =
      ((sampleBusy.toured sampleVisits).info .second).id := by
    rw [info, assets]
    rfl
  have large : amountMax < (sampleBusy.toured sampleVisits).volume .second + 100 := by
    rw [second]
    decide +kernel
  exact ⟨native, second, first,
    ((counts _).full (sampleSwap .second 100) rfl .second offered large).1⟩

end Pair

end VeiledPool
