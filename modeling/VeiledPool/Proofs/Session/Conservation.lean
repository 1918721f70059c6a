import VeiledPool.Proofs.Ledger.Conservation
import VeiledPool.Proofs.Session.Atomicity

/-! # Conservation

Whatever commands a session is given, in whatever order and however each of them
ends, all funds in its ledger were minted and all that was minted is in it. The
supply of shares is what effects that were carried out minted less what they
burned, and the sum of all holdings. `Session.posting` says once what a command
can do to the books; all of this is read off it.
-/

namespace VeiledPool

namespace Command

def minted (asset : AssetId) : Command → Nat
  | mint _ funds => if asset = funds.info.id then funds.amount else 0
  | _ => 0

/-- The effects that the command had carried out, going by its reply. -/
def committed : Command → Reply → List Effect
  | apply effects, .answered _ => effects
  | perform _ true, .answered (.outcome outcome) => outcome.effects
  | handle _ true, .answered (.report (.accepted _ outcome)) => outcome.effects
  | _, _ => []

end Command

def Effect.issued (effects : List Effect) : Int :=
  (effects.map supplyChange).sum

namespace Session

def obey (session : Session) (commands : List Command) : Session :=
  commands.foldl (fun session command => (session.step command).2) session

/-- All effects that were carried out on behalf of commands. -/
def committed (session : Session) : List Command → List Effect
  | [] => []
  | command :: rest =>
    command.committed (session.step command).1 ++ (session.step command).2.committed rest

/-- Every way in which a command can change the books. -/
inductive Posting (before : Session) (command : Command) : Reply × Session → Prop where
  | minted {reply : Reply} {after : Session} (holder : Holder) (funds : Asset)
    (minting : command = .mint holder funds)
    (credited : before.ledger.books.balances.add holder funds.info funds.amount =
      .ok after.ledger.books.balances)
    (shares : after.ledger.books.shares = before.ledger.books.shares) :
    Posting before command (reply, after)
  /-- Effects were carried out, if only that of funds that came in. -/
  | carried {effects : List Effect} {reply : Reply} {after : Session}
    (unminted : ∀ asset, command.minted asset = 0)
    (carried : before.ledger.books.carryAll before.ledger.account effects = .ok after.ledger.books)
    (issued : Effect.issued effects = Effect.issued (command.committed reply)) :
    Posting before command (reply, after)

theorem Posting.idle {before after : Session} {command : Command} {reply : Reply}
    (unminted : ∀ asset, command.minted asset = 0)
    (same : after.ledger.books = before.ledger.books)
    (uncommitted : command.committed reply = []) : Posting before command (reply, after) :=
  .carried unminted (Books.carryAll_nil_eq_ok.2 same.symm) (by rw [uncommitted])

variable {session : Session}

theorem posting_ask {α : Type} {command : Command} {answer : α → Answer}
    (unminted : ∀ asset, command.minted asset = 0)
    (uncommitted : ∀ reply, command.committed reply = []) (result : Except Fault α × Entropy) :
    Posting session command (session.ask answer result) := by
  obtain ⟨outcome, entropy⟩ := result
  cases outcome with
  | ok value => exact .idle unminted rfl (uncommitted _)
  | error fault => exact .idle unminted rfl (uncommitted _)

theorem posting_conclude {command : Command} {outcome : Outcome} {answer : Answer} {commit : Bool}
    (unminted : ∀ asset, command.minted asset = 0)
    (committed : command.committed (.answered answer) = if commit then outcome.effects else [])
    (unapplied : ∀ fault, command.committed (.unapplied answer fault) = []) :
    Posting session command (session.conclude outcome answer commit) := by
  cases commit with
  | false => exact .idle unminted rfl committed
  | true =>
    cases carried : session.ledger.books.carryAll session.ledger.account outcome.effects with
    | ok books =>
      rw [conclude_of_ok carried]
      exact .carried unminted carried (by rw [committed, if_pos rfl])
    | error fault =>
      rw [conclude_of_error carried]
      exact .idle unminted rfl (unapplied fault)

theorem posting (session : Session) (command : Command) :
    Posting session command (session.step command) := by
  cases command with
  | mint holder funds =>
    obtain ⟨after, credited⟩ : ∃ after, session.ledger.books.balances.add holder funds.info
        funds.amount = .ok after := ⟨_, Balances.add_eq_ok_iff.2 ⟨by omega, rfl⟩⟩
    rw [step_mint, Ledger.mint, credited]
    exact .minted holder funds rfl credited rfl
  | receive sender asset =>
    obtain ⟨books, carried, answered⟩ | ⟨cause, refused⟩ := step_receive session sender asset
    · rw [answered]
      exact .carried (fun _ => rfl)
        (Books.carryAll_cons_eq_ok.2 ⟨books, carried, Books.carryAll_nil_eq_ok.2 rfl⟩) rfl
    · rw [refused]
      exact .idle (fun _ => rfl) rfl rfl
  | perform action commit =>
    rw [step]
    cases Exchange.perform session.ledger session.rate session.pair action with
    | error fault => cases commit <;> exact .idle (fun _ => rfl) rfl rfl
    | ok outcome =>
      cases commit <;> exact posting_conclude (fun _ => rfl) rfl fun _ => rfl
  | handle action commit =>
    rw [step_handle]
    cases Exchange.perform session.ledger session.rate session.pair action with
    | error fault => cases commit <;> exact .idle (fun _ => rfl) rfl rfl
    | ok outcome =>
      cases commit <;> exact posting_conclude (fun _ => rfl) rfl fun _ => rfl
  | queryPair => exact .idle (fun _ => rfl) rfl rfl
  | queryPool => exact posting_ask (fun _ => rfl) (fun _ => rfl) _
  | simulate offer => exact posting_ask (fun _ => rfl) (fun _ => rfl) _
  | reverseSimulate ask => exact posting_ask (fun _ => rfl) (fun _ => rfl) _
  | apply effects =>
    cases carried : session.ledger.books.carryAll session.ledger.account effects with
    | ok books =>
      rw [step_apply_eq_answered_iff.2 ⟨books, carried, rfl⟩]
      exact .carried (fun _ => rfl) carried rfl
    | error fault =>
      rw [step_apply_of_error carried]
      exact .idle (fun _ => rfl) rfl rfl
  | setRate rate => exact .idle (fun _ => rfl) rfl rfl
  | absorb data =>
    rw [step]
    cases session.entropy.absorb data with
    | ok entropy => exact .idle (fun _ => rfl) rfl rfl
    | error fault => exact .idle (fun _ => rfl) rfl rfl
  | total asset => exact .idle (fun _ => rfl) rfl rfl

variable {before after : Session} {command : Command} {reply : Reply}

theorem Posting.total (posting : Posting before command (reply, after)) (asset : AssetInfo) :
    after.ledger.books.balances.total asset =
      before.ledger.books.balances.total asset + command.minted asset.id := by
  cases posting with
  | minted holder funds minting credited shares =>
    subst minting
    have credit := Balances.total_add credited asset
    by_cases same : asset.id = funds.info.id
    · simp only [Command.minted, same, if_true] at credit ⊢
      omega
    · simp only [Command.minted, same, if_false] at credit ⊢
      omega
  | carried unminted carried issued =>
    rw [Books.total_carryAll carried, unminted, Nat.add_zero]

theorem Posting.sound (posting : Posting before command (reply, after))
    (sound : before.ledger.books.Sound) : after.ledger.books.Sound := by
  cases posting with
  | minted holder funds minting credited shares =>
    exact ⟨Balances.positive_add credited sound.balances, shares ▸ sound.shares⟩
  | carried unminted carried issued => exact Books.sound_carryAll carried sound

theorem Posting.supply (posting : Posting before command (reply, after)) :
    (after.supply : Int) = before.supply + Effect.issued (command.committed reply) := by
  cases posting with
  | minted holder funds minting credited shares =>
    subst minting
    simp only [Session.supply, Ledger.totalShare, shares]
    exact (Int.add_zero _).symm
  | carried unminted carried issued =>
    rw [← issued]
    exact Books.supply_carryAll carried

theorem obey_total (session : Session) (commands : List Command) (asset : AssetInfo) :
    (session.obey commands).ledger.books.balances.total asset =
      session.ledger.books.balances.total asset +
        (commands.map (Command.minted asset.id)).sum := by
  induction commands generalizing session with
  | nil => rfl
  | cons command rest ih =>
    have first := (posting session command).total asset
    have others := ih (session.step command).2
    rw [List.map_cons, List.sum_cons, ← Nat.add_assoc, ← first]
    exact others

theorem obey_sound (commands : List Command) (sound : session.ledger.books.Sound) :
    (session.obey commands).ledger.books.Sound := by
  induction commands generalizing session with
  | nil => exact sound
  | cons command rest ih => exact ih ((posting session command).sound sound)

theorem obey_supply (session : Session) (commands : List Command) :
    ((session.obey commands).supply : Int) =
      session.supply + Effect.issued (session.committed commands) := by
  induction commands generalizing session with
  | nil => exact (Int.add_zero _).symm
  | cons command rest ih =>
    have first := (posting session command).supply
    have others := ih (session.step command).2
    rw [committed, Effect.issued, List.map_append, List.sum_append, ← Int.add_assoc]
    exact others.trans (congrArg (· + _) first)

/-- From an empty ledger on no run of commands creates or loses anything. What all
    holders have of an asset is what was minted of it, under whatever code hash; the
    supply of shares is the sum of all holdings and what was minted of them less what
    was burned; and every row of both tables stands for a positive number. -/
theorem ledger_conserves (session : Session) (fresh : session.ledger.books = .empty)
    (commands : List Command) :
    (∀ asset, (session.obey commands).ledger.books.balances.total asset =
      (commands.map (Command.minted asset.id)).sum) ∧
    (session.obey commands).ledger.books.shares.consistent = true ∧
    ((session.obey commands).supply : Int) = Effect.issued (session.committed commands) ∧
    (∀ row ∈ (session.obey commands).ledger.books.balances.table.rows, 0 < row.2) ∧
    ∀ row ∈ (session.obey commands).ledger.books.shares.table.rows, 0 < row.2 := by
  have start : session.ledger.books.Sound := fresh ▸ Books.sound_empty
  have unsupplied : session.supply = 0 := by
    rw [supply, Ledger.totalShare, fresh]
    rfl
  have sound := obey_sound commands start
  refine ⟨fun asset => ?totals, Shares.consistent_eq_true _, ?supplied, sound.balances,
    sound.shares⟩
  case totals =>
    rw [obey_total, fresh]
    exact Nat.zero_add _
  case supplied =>
    rw [obey_supply, unsupplied]
    exact Int.zero_add _

/-- Funds under two code hashes, two lists of effects that are carried out and commands
    that are refused, one of them in the middle of a list. -/
def sampleCommands : List Command :=
  [.mint "provider" (sampleAsset .first 50), .mint "trader" (sampleAsset .second 7),
    .mint "trader" ⟨{ sample.pair.info .second with codeHash := .text "ab" }, 4⟩,
    .receive "trader" (sampleAsset .second 12), .receive "trader" (sampleAsset .second 9),
    .apply [.mintShares "provider" 8, .transfer (sampleAsset .second 9) "pool",
      .transferFrom (sampleAsset .first 50) "provider", .burnShares "provider" 3],
    .apply [.transfer (sampleAsset .first 20) "trader", .burnShares "provider" 6],
    .apply [.unknown "note"],
    .apply [.burnShares "provider" 5, .transfer (sampleAsset .first 50) "trader"]]

theorem ledger_conserves_sample :
    sample.ledger.books = .empty ∧
      (sample.obey sampleCommands).ledger.books.balances.total (sample.pair.info .second) = 11 ∧
      (sample.obey sampleCommands).ledger.books.shares.consistent = true ∧
      ((sample.obey sampleCommands).supply : Int) = 8 - 3 - 5 ∧
      ∀ row ∈ (sample.obey sampleCommands).ledger.books.balances.table.rows, 0 < row.2 := by
  have minted : (sampleCommands.map (Command.minted (sample.pair.info .second).id)).sum = 11 := by
    decide +kernel
  have issued : Effect.issued (sample.committed sampleCommands) = 8 - 3 - 5 := by
    decide +kernel
  obtain ⟨totals, whole, supplied, balances, -⟩ := ledger_conserves sample rfl sampleCommands
  exact ⟨rfl, (totals _).trans minted, whole, supplied.trans issued, balances⟩

end Session

end VeiledPool
