import VeiledPool.Proofs.Curve.Failure
import VeiledPool.Proofs.Exchange.Disclosure
import VeiledPool.Proofs.Pair.Side

/-! # The order of draws

Questions take draws, one each, in the order in which they are asked, and a
question about a foreign asset takes none. Actions take none either, and what
becomes of them does not depend on the source of draws or on questions asked in
between.
-/

namespace VeiledPool

/-- What a caller asks of a pair, or wants to have done. -/
inductive Call where
  | queryPool
  | simulate (offer : Asset)
  | reverseSimulate (ask : Asset)
  | handle (action : Action) (commit : Bool)

namespace Call

def command : Call → Command
  | queryPool => .queryPool
  | simulate offer => .simulate offer
  | reverseSimulate ask => .reverseSimulate ask
  | handle action commit => .handle action commit

def asset? : Call → Option AssetInfo
  | queryPool => none
  | simulate offer => some offer.info
  | reverseSimulate ask => some ask.info
  | handle .. => none

/-- It is a question, and not about a foreign asset. -/
def Draws (pair : Pair) : Call → Prop
  | queryPool => True
  | simulate offer => pair.Trades offer.info
  | reverseSimulate ask => pair.Trades ask.info
  | handle .. => False

instance (pair : Pair) (call : Call) : Decidable (call.Draws pair) :=
  match call with
  | queryPool => inferInstanceAs (Decidable True)
  | simulate offer => inferInstanceAs (Decidable (pair.Trades offer.info))
  | reverseSimulate ask => inferInstanceAs (Decidable (pair.Trades ask.info))
  | handle .. => inferInstanceAs (Decidable False)

end Call

inductive Move where
  | enter (pair : Pair) (ledger : Ledger) (rate : CommissionRate)
  | make (call : Call)

namespace Move

def Draws (pair : Pair) : Move → Prop
  | enter .. => False
  | make call => call.Draws pair

instance (pair : Pair) (move : Move) : Decidable (move.Draws pair) :=
  match move with
  | enter .. => inferInstanceAs (Decidable False)
  | make call => inferInstanceAs (Decidable (call.Draws pair))

def steady : Move → Bool
  | enter .. => true
  | make (.handle ..) => true
  | make _ => false

end Move

namespace Session

def withEntropy (session : Session) (entropy : Entropy) : Session :=
  { session with entropy }

@[simp]
theorem withEntropy_withEntropy (session : Session) (first second : Entropy) :
    (session.withEntropy first).withEntropy second = session.withEntropy second := rfl

def reply (session : Session) (call : Call) : Reply :=
  (session.step call.command).1

def moved (session : Session) : Move → Session
  | .enter pair ledger rate => ⟨pair, ledger, rate, session.entropy⟩
  | .make call => (session.step call.command).2

def play (session : Session) (moves : List Move) : Session :=
  moves.foldl moved session

/-- How many of the calls take a draw, as far as there are any. -/
def drawing (session : Session) : List Move → Nat
  | [] => 0
  | move :: rest =>
    (if move.Draws session.pair then 1 else 0) + (session.moved move).drawing rest

def verdict? (session : Session) : Move → Option Reply
  | .make (.handle action commit) => some (session.reply (.handle action commit))
  | _ => none

def verdicts (session : Session) : List Move → List Reply
  | [] => []
  | move :: rest => (session.verdict? move).toList ++ (session.moved move).verdicts rest

variable {session : Session} {call : Call} {source rest : Entropy} {draw : UInt64} {α : Type}

def replyOf (answer : α → Answer) : Except Fault α → Reply
  | .ok result => .answered (answer result)
  | .error fault => .refused fault

theorem ask_eq (session : Session) (answer : α → Answer) (result : Except Fault α)
    (entropy : Entropy) :
    session.ask answer (result, entropy) =
      (replyOf answer result, session.withEntropy entropy) := by
  cases result with
  | ok result => rfl
  | error fault => rfl

/-- The reply to a question under a veil. An action does not look at it. -/
def replyUnder (session : Session) (veil : Veil) : Call → Reply
  | .queryPool => replyOf .pool (Exchange.reportUnder (session.ledger.pools session.pair)
      session.ledger.totalShare veil)
  | .simulate offer => replyOf .fill do
    let side ← session.pair.sideOf offer.info
    Exchange.fillUnder session.ledger session.rate session.pair side offer.amount veil
  | .reverseSimulate ask => replyOf .quote do
    let side ← session.pair.sideOf ask.info
    Exchange.quoteUnder session.ledger session.rate session.pair side ask.amount veil
  | .handle action commit => session.reply (.handle action commit)

def operands (session : Session) (call : Call) : List Int :=
  let reserves : List Int := [session.reserve .first, session.reserve .second]
  let terms : List Int := [session.rate.nom, session.rate.denom]
  match call with
  | .queryPool => reserves ++ [(session.supply : Int)]
  | .simulate offer => reserves ++ (offer.amount : Int) :: terms
  | .reverseSimulate ask => reserves ++ (ask.amount : Int) :: terms
  | .handle .. => []

/-- A question that takes a draw is answered under the veil of that draw, which adds the last two
    digits of the draw to ten thousand or takes them from it, and it passes on the fault of a
    source that has no draw. -/
structure Answers (session : Session) (call : Call) : Prop where
  drawn : ∀ source rest draw, source.next = (.ok draw, rest) →
    (session.withEntropy source).step call.command =
      (session.replyUnder ⟨Veil.parts draw, (10000 : Nat)⟩ call, session.withEntropy rest)
  missed : ∀ source rest fault, source.next = (.error fault, rest) →
    (session.withEntropy source).step call.command = (.refused fault, session.withEntropy rest)
  fails : ∀ draw fault,
    session.replyUnder ⟨Veil.parts draw, (10000 : Nat)⟩ call = .refused fault →
      fault.ArithmeticOn (session.operands call)

theorem answers_of_observe {answer : α → Answer} {report : Veil → Except Fault α}
    (asked : ∀ source, (session.withEntropy source).step call.command =
      (session.withEntropy source).ask answer (source.observe report))
    (replied : ∀ veil, session.replyUnder veil call = replyOf answer (report veil))
    (fails : ∀ draw, FailsOnly (Fault.ArithmeticOn (session.operands call))
      (report (Veil.ofDraw draw))) : session.Answers call where
  drawn source rest draw drawn := by
    rw [asked, Entropy.observe_of_draw drawn, ask_eq, withEntropy_withEntropy, replied,
      Veil.ofDraw_eq]
  missed source rest fault missed := by
    rw [asked, Entropy.observe, missed]
    rfl
  fails draw fault refused := by
    rw [replied, ← Veil.ofDraw_eq] at refused
    cases reported : report (Veil.ofDraw draw) with
    | ok result => simp [reported, replyOf] at refused
    | error cause =>
      simp only [reported, replyOf, Reply.refused.injEq] at refused
      exact refused ▸ fails draw cause reported

theorem answers_of_draws (draws : call.Draws session.pair) : session.Answers call := by
  cases call with
  | queryPool =>
    refine answers_of_observe (fun _ => rfl) (fun _ => rfl) fun draw => ?_
    exact Exchange.failsOnly_reportUnder Fault.ArithmeticOn.overflow fun long =>
      Fault.ArithmeticOn.illegible long
  | simulate offer =>
    obtain ⟨side, sided⟩ := Pair.exists_sideOf draws
    have asked (source : Entropy) : (session.withEntropy source).step (.simulate offer) =
        (session.withEntropy source).ask .fill (source.observe
          (Exchange.fillUnder session.ledger session.rate session.pair side offer.amount)) :=
      congrArg ((session.withEntropy source).ask .fill)
        (Exchange.simulate_eq_observe _ _ sided source)
    refine answers_of_observe asked (fun veil => ?_) fun draw => ?_
    · rw [replyUnder, sided, ok_bind]
    · exact Exchange.failsOnly_fillUnder Fault.ArithmeticOn.overflow Fault.ArithmeticOn.degenerate
        Fault.ArithmeticOn.illegible
  | reverseSimulate ask =>
    obtain ⟨side, sided⟩ := Pair.exists_sideOf draws
    have asked (source : Entropy) : (session.withEntropy source).step (.reverseSimulate ask) =
        (session.withEntropy source).ask .quote (source.observe
          (Exchange.quoteUnder session.ledger session.rate session.pair side ask.amount)) :=
      congrArg ((session.withEntropy source).ask .quote)
        (Exchange.reverseSimulate_eq_observe _ _ sided source)
    refine answers_of_observe asked (fun veil => ?_) fun draw => ?_
    · rw [replyUnder, sided, ok_bind]
    · exact Exchange.failsOnly_quoteUnder Fault.ArithmeticOn.overflow Fault.ArithmeticOn.degenerate
        Fault.ArithmeticOn.illegible
  | handle action commit => cases draws

theorem step_foreign (call : Call) {asset : AssetInfo} (about : call.asset? = some asset)
    (foreign : ¬ session.pair.Trades asset) :
    session.step call.command = (.refused (.invalidAsset (.stranger asset.name
      session.pair.assets.first.name session.pair.assets.second.name)), session) := by
  cases call with
  | queryPool => cases about
  | simulate offer =>
    cases about
    simp only [Call.command, step, Exchange.simulate, Pair.sideOf_eq_error foreign]
    rfl
  | reverseSimulate ask =>
    cases about
    simp only [Call.command, step, Exchange.reverseSimulate, Pair.sideOf_eq_error foreign]
    rfl
  | handle action commit => cases about

theorem step_handle_withEntropy (session : Session) (action : Action) (commit : Bool)
    (entropy : Entropy) :
    (session.withEntropy entropy).step (.handle action commit) =
      ((session.step (.handle action commit)).1,
        (session.step (.handle action commit)).2.withEntropy entropy) := by
  simp only [step_handle, withEntropy]
  cases Exchange.perform session.ledger session.rate session.pair action with
  | error fault => rfl
  | ok outcome =>
    cases commit with
    | false => rfl
    | true =>
      simp only [conclude, settle, Ledger.operate_applyEffects]
      cases session.ledger.applyEffects outcome.effects <;> rfl

theorem moved_idle (question : (Move.make call).steady = false)
    (idle : ¬ call.Draws session.pair) : session.moved (.make call) = session := by
  have about : ∃ asset, call.asset? = some asset ∧ ¬ session.pair.Trades asset := by
    cases call with
    | queryPool => exact absurd trivial idle
    | simulate offer => exact ⟨offer.info, rfl, idle⟩
    | reverseSimulate ask => exact ⟨ask.info, rfl, idle⟩
    | handle action commit => cases question
  obtain ⟨asset, about, foreign⟩ := about
  exact congrArg Prod.snd (step_foreign call about foreign)

theorem moved_question (session : Session) {move : Move} (question : move.steady = false) :
    ∃ entropy, session.moved move = session.withEntropy entropy := by
  cases move with
  | enter pair ledger rate => cases question
  | make call =>
    by_cases draws : call.Draws session.pair
    · have answers := answers_of_draws draws
      cases next : session.entropy.next with
      | mk taken rest =>
        cases taken with
        | ok draw => exact ⟨rest, congrArg Prod.snd (answers.drawn _ rest draw next)⟩
        | error fault => exact ⟨rest, congrArg Prod.snd (answers.missed _ rest fault next)⟩
    · exact ⟨session.entropy, moved_idle question draws⟩

theorem moved_steady (session : Session) {move : Move} (steady : move.steady = true)
    (entropy : Entropy) :
    (session.withEntropy entropy).moved move = (session.moved move).withEntropy entropy ∧
      (session.withEntropy entropy).verdict? move = session.verdict? move := by
  cases move with
  | enter pair ledger rate => exact ⟨rfl, rfl⟩
  | make call =>
    cases call with
    | handle action commit =>
      have same := step_handle_withEntropy session action commit entropy
      have replied : ((session.withEntropy entropy).step (.handle action commit)).1 =
          (session.step (.handle action commit)).1 := by rw [same]
      exact ⟨congrArg Prod.snd same, congrArg some replied⟩
    | queryPool => cases steady
    | simulate offer => cases steady
    | reverseSimulate ask => cases steady

theorem verdict?_question (session : Session) {move : Move} (question : move.steady = false) :
    session.verdict? move = none := by
  cases move with
  | enter pair ledger rate => rfl
  | make call =>
    cases call with
    | handle action commit => cases question
    | queryPool => rfl
    | simulate offer => rfl
    | reverseSimulate ask => rfl

/-- Over any source of draws actions go as they do when nobody asks anything. -/
theorem verdicts_withEntropy (session : Session) (entropy : Entropy) (moves : List Move) :
    (session.withEntropy entropy).verdicts moves = session.verdicts (moves.filter Move.steady) := by
  induction moves generalizing session entropy with
  | nil => rfl
  | cons move rest ih =>
    cases kind : move.steady with
    | true =>
      obtain ⟨onward, verdict⟩ := session.moved_steady kind entropy
      rw [List.filter_cons_of_pos kind, verdicts, verdicts, onward, verdict, ih]
    | false =>
      obtain ⟨after, onward⟩ := (session.withEntropy entropy).moved_question kind
      rw [List.filter_cons_of_neg (by simp [kind]), verdicts, verdict?_question _ kind, onward,
        withEntropy_withEntropy, ih]
      rfl

theorem moved_of_not_draws {move : Move} (idle : ¬ move.Draws session.pair) :
    (session.moved move).entropy = session.entropy := by
  cases kind : move.steady with
  | true =>
    have kept := congrArg entropy (session.moved_steady kind session.entropy).1
    exact kept
  | false =>
    cases move with
    | enter pair ledger rate => cases kind
    | make call => exact congrArg entropy (moved_idle kind idle)

variable {draws : List UInt64} {taken : Nat}

theorem next_of_some (left : draws[taken]? = some draw) :
    (Entropy.script draws taken).next = (.ok draw, .script draws (taken + 1)) := by
  rw [Entropy.next, left]

theorem next_of_none (none : draws[taken]? = none) :
    (Entropy.script draws taken).next = (.error (.exhausted taken), .script draws taken) := by
  rw [Entropy.next, none]

/-- A question that takes a draw is answered under the veil of the next one. -/
theorem step_of_some (scripted : session.entropy = .script draws taken)
    (takes : call.Draws session.pair) (left : draws[taken]? = some draw) :
    session.reply call = session.replyUnder ⟨Veil.parts draw, (10000 : Nat)⟩ call ∧
      (session.moved (.make call)).entropy = .script draws (taken + 1) ∧
      ∀ fault, session.reply call = .refused fault →
        fault.ArithmeticOn (session.operands call) := by
  have answers := answers_of_draws takes
  have here := answers.drawn session.entropy _ draw (scripted ▸ next_of_some left)
  have replied : session.reply call = _ := congrArg Prod.fst here
  refine ⟨replied, congrArg (·.2.entropy) here, ?_⟩
  intro fault refused
  exact answers.fails draw fault (replied.symm.trans refused)

theorem step_of_none (scripted : session.entropy = .script draws taken)
    (takes : call.Draws session.pair) (none : draws[taken]? = none) :
    session.reply call = .refused (.exhausted taken) ∧
      (session.moved (.make call)).entropy = session.entropy := by
  have here := (answers_of_draws takes).missed session.entropy _ _ (scripted ▸ next_of_none none)
  exact ⟨congrArg Prod.fst here, congrArg (·.2.entropy) here⟩

theorem entropy_moved (scripted : session.entropy = .script draws taken)
    (valid : taken ≤ draws.length) (move : Move) :
    (session.moved move).entropy = .script draws
      (min (taken + if move.Draws session.pair then 1 else 0) draws.length) := by
  by_cases takes : move.Draws session.pair
  · rw [if_pos takes]
    cases move with
    | enter pair ledger rate => cases takes
    | make call =>
      cases left : draws[taken]? with
      | some draw =>
        have inside := (List.getElem?_eq_some_iff.1 left).1
        rw [(step_of_some scripted takes left).2.1, Nat.min_eq_left inside]
      | none =>
        have outside := List.getElem?_eq_none_iff.1 left
        rw [(step_of_none scripted takes left).2, scripted]
        congr 1
        omega
  · rw [if_neg takes, moved_of_not_draws takes, scripted, Nat.add_zero, Nat.min_eq_left valid]

/-- After a run as many draws are gone as calls were to take one, or all of them. -/
theorem entropy_play (scripted : session.entropy = .script draws taken)
    (valid : taken ≤ draws.length) (moves : List Move) :
    (session.play moves).entropy =
      .script draws (min (taken + session.drawing moves) draws.length) := by
  induction moves generalizing session taken with
  | nil => rw [play, List.foldl_nil, scripted, drawing, Nat.add_zero, Nat.min_eq_left valid]
  | cons move rest ih =>
    have onward := ih (entropy_moved scripted valid move) (Nat.min_le_right _ _)
    rw [play, List.foldl_cons]
    refine onward.trans ?_
    rw [drawing]
    congr 1
    omega

/-- What a call does to a script of which `due` draws ought to be gone, as far as it goes. -/
structure InTurn (draws : List UInt64) (due : Nat) (session : Session) (call : Call) : Prop where
  position : session.entropy = .script draws (min due draws.length)
  drawn : ∀ draw, call.Draws session.pair → draws[due]? = some draw →
    session.reply call = session.replyUnder ⟨Veil.parts draw, (10000 : Nat)⟩ call ∧
      (session.moved (.make call)).entropy = .script draws (due + 1) ∧
      ∀ fault, session.reply call = .refused fault → fault.ArithmeticOn (session.operands call)
  exhausted : call.Draws session.pair → draws.length ≤ due →
    session.reply call = .refused (.exhausted draws.length) ∧
      (session.moved (.make call)).entropy = session.entropy
  foreign : ∀ asset, call.asset? = some asset → ¬ session.pair.Trades asset →
    session.reply call = .refused (.invalidAsset (.stranger asset.name
        session.pair.assets.first.name session.pair.assets.second.name)) ∧
      (session.moved (.make call)).entropy = session.entropy
  handled : ∀ action commit, call = .handle action commit →
    (session.moved (.make call)).entropy = session.entropy

theorem inTurn_of_position {due : Nat}
    (position : session.entropy = .script draws (min due draws.length)) :
    InTurn draws due session call where
  position := position
  drawn draw takes left := by
    have inside := (List.getElem?_eq_some_iff.1 left).1
    rw [Nat.min_eq_left (Nat.le_of_lt inside)] at position
    exact step_of_some position takes left
  exhausted takes spent := by
    rw [Nat.min_eq_right spent] at position
    exact step_of_none position takes (List.getElem?_eq_none_iff.2 (Nat.le_refl _))
  foreign asset about foreign := by
    have refused := step_foreign call about foreign
    exact ⟨congrArg Prod.fst refused, congrArg (·.2.entropy) refused⟩
  handled action commit same := by
    apply moved_of_not_draws
    rw [same]
    exact not_false

/-- Two draws are there for two reports; then comes a sale, and a question about an asset that
    the pair does not trade. -/
def sampleScripted : Session :=
  sampleFunded.withEntropy (.script [107, 42] 0)

def sampleMoves : List Move :=
  [.make .queryPool, .make (.handle (.swap ⟨"trader", sampleAsset .second 500, none, none, none,
    none⟩) true), .make (.simulate ⟨⟨⟨.token, "other"⟩, .null, by decide⟩, 5⟩),
    .make (.reverseSimulate (sampleAsset .first 10))]

end Session

end VeiledPool
