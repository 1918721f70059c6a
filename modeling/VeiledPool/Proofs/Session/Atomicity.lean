import VeiledPool.Proofs.Session.Turn

/-! # All effects or none

Effects that come from elsewhere are applied to the live ledger in one piece: if
they can be carried out one after the other the ledger ends where that leads, and
if one of them is refused the ledger is what it was, whatever the effects before
it had done to the copies that they were carried out on.
-/

namespace VeiledPool.Session

variable {session after : Session} {effects : List Effect} {fault : Fault}

theorem step_apply_eq_answered_iff :
    session.step (.apply effects) = (.answered .done, after) ↔
      ∃ books, session.ledger.books.carryAll session.ledger.account effects = .ok books ∧
        after = session.withBooks books := by
  cases carried : session.ledger.books.carryAll session.ledger.account effects with
  | ok books =>
    simp [step_apply, changed, Ledger.applyEffects_eq_ok_iff.2 ⟨books, carried, rfl⟩, withBooks,
      eq_comm]
  | error fault => simp [step_apply, changed, Ledger.applyEffects_eq_error_iff.2 carried]

theorem step_apply_of_error
    (failed : session.ledger.books.carryAll session.ledger.account effects = .error fault) :
    session.step (.apply effects) = (.refused fault, session) := by
  simp [step_apply, changed, Ledger.applyEffects_eq_error_iff.2 failed]

/-- Effects are applied all or not at all. If one of them is refused after the ones
    before it were carried out, its fault is the answer and nothing in the session
    has changed; if none is, the books are those that carrying out one by one leads
    to; and one of the two is the case. What is applied in one list may as well be
    applied in two. -/
theorem apply_all_or_nothing (session : Session) (effects : List Effect) :
    (∀ failing fault,
      Books.FirstFailure session.ledger.account session.ledger.books effects failing fault →
      session.step (.apply effects) = (.refused fault, session)) ∧
    (∀ books, Books.Carried session.ledger.account session.ledger.books effects books →
      session.step (.apply effects) = (.answered .done, session.withBooks books)) ∧
    ((∃ books, Books.Carried session.ledger.account session.ledger.books effects books) ∨
      ∃ failing fault,
        Books.FirstFailure session.ledger.account session.ledger.books effects failing fault) ∧
    ∀ front rest after, effects = front ++ rest →
      (session.step (.apply effects) = (.answered .done, after) ↔
        ∃ middle, session.step (.apply front) = (.answered .done, middle) ∧
          middle.step (.apply rest) = (.answered .done, after)) := by
  refine ⟨?refused, ?carried, ?either, ?split⟩
  case refused =>
    intro failing fault fails
    exact step_apply_of_error (Books.carryAll_eq_error_iff.2 ⟨failing, fails⟩)
  case carried =>
    intro books carried
    exact step_apply_eq_answered_iff.2 ⟨books, Books.carryAll_eq_ok_iff.2 carried, rfl⟩
  case either =>
    cases outcome : session.ledger.books.carryAll session.ledger.account effects with
    | ok books => exact .inl ⟨books, Books.carryAll_eq_ok_iff.1 outcome⟩
    | error fault =>
      obtain ⟨failing, fails⟩ := Books.carryAll_eq_error_iff.1 outcome
      exact .inr ⟨failing, fault, fails⟩
  case split =>
    rintro front rest after rfl
    simp only [step_apply_eq_answered_iff, Books.carryAll_append, bind_eq_ok]
    constructor
    · rintro ⟨books, ⟨between, first, others⟩, rfl⟩
      exact ⟨_, ⟨between, first, rfl⟩, books, others, rfl⟩
    · rintro ⟨_, ⟨between, first, rfl⟩, books, others, rfl⟩
      exact ⟨books, ⟨between, first, others⟩, rfl⟩

/-- Two effects that can be carried out, one that then lacks a single coin, and none. -/
def sampleEffects : List Effect :=
  [.mintShares "trader" 5, .transfer (sampleAsset .first 40) "trader",
    .transferFrom (sampleAsset .first 41) "trader", .unknown "note"]

theorem apply_all_or_nothing_sample :
    ∃ failing fault,
      Books.FirstFailure sampleFunded.ledger.account sampleFunded.ledger.books sampleEffects
        failing fault ∧
      fault = .badValue (.balanceShortfall "coin" "trader" 40 (-41)) ∧
      sampleFunded.step (.apply sampleEffects) = (.refused fault, sampleFunded) := by
  have reply : (sampleFunded.step (.apply sampleEffects)).1 =
      .refused (.badValue (.balanceShortfall "coin" "trader" 40 (-41))) := by
    decide +kernel
  obtain ⟨refused, carried, either, -⟩ := apply_all_or_nothing sampleFunded sampleEffects
  rcases either with ⟨books, all⟩ | ⟨failing, fault, fails⟩
  · rw [carried books all] at reply
    cases reply
  · rw [refused failing fault fails] at reply
    cases reply
    exact ⟨failing, _, fails, rfl, refused failing _ fails⟩

end VeiledPool.Session
