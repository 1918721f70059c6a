import VeiledPool.Proofs.Ledger.Live
import VeiledPool.Session

/-! # Turns of a session

A turn is what the outside does to a pair in one go: it creates funds, moves some
to the pair, puts a rate in force, or has an action handled after the funds that
belong to it were sent along. A turn ends at the first command that is refused,
and funds that came in before it stay. `Session.course` lists every way in which
the turn of an action can go.
-/

namespace VeiledPool

def Reply.accepted? : Reply → Option Outcome
  | .answered (.report (.accepted _ outcome)) => some outcome
  | _ => none

/-- The fault that a reply reports, in whichever way it does. -/
def Reply.fault? : Reply → Option Fault
  | .answered (.report (.rejected fault)) => some fault
  | .refused fault => some fault
  | .unapplied _ fault => some fault
  | .answered _ => none

namespace Action

def sender? : Action → Option Holder
  | swap order => some order.sender
  | provide order => some order.sender
  | withdraw order => some order.sender
  | unreadable _ => none

/-- The funds that are sent along: what is offered, and of a deposit the native
    part. -/
def funds : Action → List (Holder × Asset)
  | swap order => [(order.sender, order.offer)]
  | provide order => (order.assets.filter (·.info.isNative)).map (order.sender, ·)
  | withdraw _ => []
  | unreadable _ => []

/-- What the ledger does to take the funds in, as effects. -/
def funding (action : Action) : List Effect :=
  action.funds.map fun fund => .transferFrom fund.2 fund.1

end Action

inductive Turn where
  | mint (holder : Holder) (asset : Asset)
  | receive (sender : Holder) (asset : Asset)
  | setRate (rate : CommissionRate)
  | act (action : Action)
  deriving Repr

namespace Turn

def commands : Turn → List Command
  | mint holder asset => [.mint holder asset]
  | receive sender asset => [.receive sender asset]
  | setRate rate => [.setRate rate]
  | act action => action.funds.map (fun fund => .receive fund.1 fund.2) ++ [.handle action true]

def actor? : Turn → Option Holder
  | act action => action.sender?
  | mint .. | receive .. | setRate _ => none

end Turn

namespace Session

def proceed : Reply × Session → Command → Reply × Session
  | (.answered _, session), command => session.step command
  | stopped, _ => stopped

def follow (session : Session) (commands : List Command) : Reply × Session :=
  commands.foldl proceed (.answered .done, session)

def turn (session : Session) (turn : Turn) : Reply × Session :=
  session.follow turn.commands

/-- The action is accepted and done. -/
def Accepts (session : Session) (action : Action) (outcome : Outcome) (after : Session) : Prop :=
  session.turn (.act action) =
    (.answered (.report (.accepted (outcome.pairAfter session.pair) outcome)), after)

theorem accepts_of_reply (session : Session) (action : Action) (outcome : Outcome)
    (reply : (session.turn (.act action)).1 =
      .answered (.report (.accepted (outcome.pairAfter session.pair) outcome))) :
    session.Accepts action outcome (session.turn (.act action)).2 :=
  Prod.ext reply rfl

def run (session : Session) (turns : List Turn) : Session :=
  turns.foldl (fun session turn => (session.turn turn).2) session

/-- What the pair holds on one side. -/
def reserve (session : Session) (side : Side) : Nat :=
  (session.ledger.pool session.pair side).amount

def supply (session : Session) : Nat :=
  session.ledger.totalShare

def withBooks (session : Session) (books : Books) : Session :=
  { session with ledger := { session.ledger with books } }

@[simp]
theorem withBooks_ledger (session : Session) (books : Books) :
    (session.withBooks books).ledger = { session.ledger with books } := rfl

@[simp]
theorem withBooks_pair (session : Session) (books : Books) :
    (session.withBooks books).pair = session.pair := rfl

@[simp]
theorem withBooks_rate (session : Session) (books : Books) :
    (session.withBooks books).rate = session.rate := rfl

@[simp]
theorem withBooks_self (session : Session) :
    session.withBooks session.ledger.books = session := rfl

variable {session : Session}

/-- What a change of the ledger comes to: it is refused and the session is as it was, or the
    ledger is the one after it. -/
def changed (session : Session) : Except Fault Ledger → Reply × Session
  | .ok ledger => (.answered .done, { session with ledger })
  | .error fault => (.refused fault, session)

theorem change_eq_changed {program : LiveLedger Unit} {result : Except Fault Ledger}
    (operated : session.ledger.operate program = session.ledger.left result) :
    session.change program = session.changed result := by
  rw [change, operated]
  cases result <;> rfl

theorem step_mint (session : Session) (holder : Holder) (asset : Asset) :
    session.step (.mint holder asset) = session.changed (session.ledger.mint holder asset) :=
  change_eq_changed (session.ledger.operate_mint holder asset)

theorem step_apply (session : Session) (effects : List Effect) :
    session.step (.apply effects) = session.changed (session.ledger.applyEffects effects) :=
  change_eq_changed (session.ledger.operate_applyEffects effects)

theorem step_receive (session : Session) (sender : Holder) (asset : Asset) :
    (∃ books, session.ledger.books.carry session.ledger.account (.transferFrom asset sender) =
        .ok books ∧
      session.step (.receive sender asset) = (.answered .done, session.withBooks books)) ∨
    ∃ cause, session.step (.receive sender asset) = (.refused (.badValue cause), session) := by
  have received : session.step (.receive sender asset) =
      session.changed (session.ledger.receive sender asset) :=
    change_eq_changed (session.ledger.operate_receive sender asset)
  simp only [received, Ledger.receive, Books.carry]
  cases moved : session.ledger.books.balances.transfer sender session.ledger.account asset.info
      asset.amount with
  | ok balances => exact .inl ⟨_, rfl, rfl⟩
  | error fault =>
    obtain ⟨-, rfl⟩ := Balances.transfer_eq_error_iff.1 moved
    exact .inr ⟨_, rfl⟩

theorem conclude_of_ok {outcome : Outcome} {books : Books}
    (applied : session.ledger.books.carryAll session.ledger.account outcome.effects = .ok books)
    (answer : Answer) :
    session.conclude outcome answer true =
      (.answered answer, { session.withBooks books with pair := outcome.pairAfter session.pair }) := by
  simp [conclude, settle, Ledger.operate_applyEffects, Ledger.left,
    Ledger.applyEffects_eq_ok_iff.2 ⟨books, applied, rfl⟩, withBooks]

theorem conclude_of_error {outcome : Outcome} {fault : Fault}
    (failed : session.ledger.books.carryAll session.ledger.account outcome.effects = .error fault)
    (answer : Answer) :
    session.conclude outcome answer true = (.unapplied answer fault, session) := by
  simp [conclude, settle, Ledger.operate_applyEffects, Ledger.left,
    Ledger.applyEffects_eq_error_iff.2 failed]

theorem proceed_refused (fault : Fault) (session : Session) (commands : List Command) :
    commands.foldl proceed (.refused fault, session) = (.refused fault, session) := by
  induction commands with
  | nil => rfl
  | cons command rest ih => exact ih

theorem follow_receive (session : Session) (funds : List (Holder × Asset)) :
    (∃ books, session.ledger.books.carryAll session.ledger.account
        (funds.map fun fund => .transferFrom fund.2 fund.1) = .ok books ∧
      session.follow (funds.map fun fund => .receive fund.1 fund.2) =
        (.answered .done, session.withBooks books)) ∨
    ∃ received books cause, received <+: funds ∧
      session.ledger.books.carryAll session.ledger.account
        (received.map fun fund => .transferFrom fund.2 fund.1) = .ok books ∧
      session.follow (funds.map fun fund => .receive fund.1 fund.2) =
        (.refused (.badValue cause), session.withBooks books) := by
  induction funds generalizing session with
  | nil => exact .inl ⟨_, Books.carryAll_nil_eq_ok.2 rfl, rfl⟩
  | cons fund rest ih =>
    obtain ⟨books, carried, answered⟩ | ⟨cause, refused⟩ := step_receive session fund.1 fund.2
    · have onward : session.follow ((fund :: rest).map fun fund => .receive fund.1 fund.2) =
          (session.withBooks books).follow (rest.map fun fund => .receive fund.1 fund.2) := by
        simp only [follow, List.map_cons, List.foldl_cons, proceed, answered]
      rw [onward]
      obtain ⟨all, others, done⟩ | ⟨received, part, cause, prefixed, others, stopped⟩ :=
        ih (session.withBooks books)
      · exact .inl ⟨all, Books.carryAll_cons_eq_ok.2 ⟨books, carried, others⟩, done⟩
      · exact .inr ⟨fund :: received, part, cause, List.cons_prefix_cons.2 ⟨rfl, prefixed⟩,
          Books.carryAll_cons_eq_ok.2 ⟨books, carried, others⟩, stopped⟩
    · refine .inr ⟨[], session.ledger.books, cause, List.nil_prefix,
        Books.carryAll_nil_eq_ok.2 rfl, ?_⟩
      simp only [follow, List.map_cons, List.foldl_cons, proceed, refused, withBooks_self]
      exact proceed_refused _ _ _

/-- An action is handled whatever the source of draws, and leaves it as it is. -/
theorem step_handle (session : Session) (action : Action) (commit : Bool) :
    session.step (.handle action commit) =
      match Exchange.perform session.ledger session.rate session.pair action with
      | .ok outcome => session.conclude outcome
          (.report (.accepted (outcome.pairAfter session.pair) outcome)) commit
      | .error fault => (.answered (.report (.rejected fault)), session) := by
  simp only [step, Exchange.handle]
  cases Exchange.perform session.ledger session.rate session.pair action <;> rfl

/-- Every way in which the turn of an action can go. -/
inductive Course (session : Session) (action : Action) : Reply × Session → Prop where
  /-- Some of the funds were missing; those before them stay. -/
  | short {received : List (Holder × Asset)} {books : Books} {cause : BadValue}
    (part : received <+: action.funds)
    (carried : session.ledger.books.carryAll session.ledger.account
      (received.map fun fund => .transferFrom fund.2 fund.1) = .ok books) :
    Course session action (.refused (.badValue cause), session.withBooks books)
  /-- The funds came in and stay, but the action is rejected. -/
  | rejected {books : Books} {fault : Fault}
    (funded : session.ledger.books.carryAll session.ledger.account action.funding = .ok books)
    (faulty : Exchange.perform { session.ledger with books } session.rate session.pair action =
      .error fault) :
    Course session action (.answered (.report (.rejected fault)), session.withBooks books)
  /-- The action is accepted, but the ledger cannot carry out what it asks for. -/
  | unapplied {books : Books} {outcome : Outcome} {fault : Fault}
    (funded : session.ledger.books.carryAll session.ledger.account action.funding = .ok books)
    (accepted : Exchange.perform { session.ledger with books } session.rate session.pair action =
      .ok outcome)
    (failed : books.carryAll session.ledger.account outcome.effects = .error fault) :
    Course session action
      (.unapplied (.report (.accepted (outcome.pairAfter session.pair) outcome)) fault,
        session.withBooks books)
  /-- The action is accepted and done. -/
  | settled {books after : Books} {outcome : Outcome}
    (funded : session.ledger.books.carryAll session.ledger.account action.funding = .ok books)
    (accepted : Exchange.perform { session.ledger with books } session.rate session.pair action =
      .ok outcome)
    (applied : books.carryAll session.ledger.account outcome.effects = .ok after) :
    Course session action
      (.answered (.report (.accepted (outcome.pairAfter session.pair) outcome)),
        { session.withBooks after with pair := outcome.pairAfter session.pair })

theorem course (session : Session) (action : Action) :
    Course session action (session.turn (.act action)) := by
  have split : session.turn (.act action) = proceed
      (session.follow (action.funds.map fun fund => .receive fund.1 fund.2))
        (.handle action true) := by
    simp [turn, Turn.commands, follow]
  rw [split]
  obtain ⟨books, funded, done⟩ | ⟨received, books, cause, part, carried, stopped⟩ :=
    follow_receive session action.funds
  · rw [done]
    cases performed : Exchange.perform { session.ledger with books } session.rate session.pair
        action with
    | error fault =>
      have reply : proceed (.answered .done, session.withBooks books) (.handle action true) =
          (.answered (.report (.rejected fault)), session.withBooks books) := by
        simp only [proceed, step_handle, withBooks_ledger, withBooks_rate, withBooks_pair,
          performed]
      rw [reply]
      exact .rejected funded performed
    | ok outcome =>
      cases carried : books.carryAll session.ledger.account outcome.effects with
      | error fault =>
        have reply : proceed (.answered .done, session.withBooks books) (.handle action true) =
            (.unapplied (.report (.accepted (outcome.pairAfter session.pair) outcome)) fault,
              session.withBooks books) := by
          simp only [proceed, step_handle, withBooks_ledger, withBooks_rate, withBooks_pair,
            performed]
          exact conclude_of_error carried _
        rw [reply]
        exact .unapplied funded performed carried
      | ok after =>
        have reply : proceed (.answered .done, session.withBooks books) (.handle action true) =
            (.answered (.report (.accepted (outcome.pairAfter session.pair) outcome)),
              { session.withBooks after with pair := outcome.pairAfter session.pair }) := by
          simp only [proceed, step_handle, withBooks_ledger, withBooks_rate, withBooks_pair,
            performed]
          exact conclude_of_ok carried _
        rw [reply]
        exact .settled funded performed carried
  · rw [stopped]
    exact .short part carried

/-- A coin and a token that nobody has any of yet, for examples. -/
def sample : Session where
  pair := {
    assets := ⟨⟨⟨.native, "coin"⟩, .null, by decide⟩, ⟨⟨.token, "token"⟩, .null, by decide⟩,
      .inl (by decide)⟩
    token := "share"
    named := by decide
    volume0 := 0
    volume1 := 0 }
  ledger := ⟨"pool", by decide, .empty⟩
  rate := .standard
  entropy := .script [] 0

def sampleAsset (side : Side) (amount : Nat) : Asset :=
  ⟨sample.pair.info side, amount⟩

/-- How the example gets going: two holders get funds and one of them deposits. -/
def sampleOpening : List Turn :=
  [.mint "provider" (sampleAsset .first 9000), .mint "provider" (sampleAsset .second 9000),
    .mint "trader" (sampleAsset .second 700),
    .act (.provide { sender := "provider", assets := [sampleAsset .second 4000,
      sampleAsset .first 1000] })]

def sampleFunded : Session :=
  sample.run sampleOpening

end Session

end VeiledPool
