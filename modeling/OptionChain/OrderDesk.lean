import OptionChain.BookMoves
import OptionChain.StraddleBridge

/-!
# Orders and their answers

The orders of a book reach the bridge in the order of publication, and the answers come
back in that order, each after any delay: a fill, an abort, or nothing. In between the book
goes on handling ticks, and publishes further orders.
-/

namespace OptionChain.OrderDesk

open Broker Runs StraddleEvents StraddleBook StraddleExits SessionRestart StraddleRuns OrderStream
  BookMoves StraddleBridge

/-! ## Answers -/

inductive Reply where
  | aborted (paperMode : Bool)
  | filled (paperMode : Bool) (ceFill peFill : Rat) (ceSymbol peSymbol : Option String)
deriving DecidableEq

/-- The fill event by which the bridge answers an order. It aborts only an ENTRY. -/
def answerFill (ev : StraddleOrderEvent) : Reply → StraddleFillEvent
  | .aborted paperMode =>
      { action := ev.action
        underlying := ev.underlying
        atm := ev.atm
        ceStrike := ev.ceStrike
        peStrike := ev.peStrike
        ceFill := 0
        peFill := 0
        clientId := ev.clientId
        bindingId := ev.bindingId
        eventId := ev.eventId
        paperMode := paperMode
        legs := ev.legs
        entryAborted := true }
  | .filled paperMode ceFill peFill ceSymbol peSymbol =>
      { action := ev.action
        underlying := ev.underlying
        atm := ev.atm
        ceStrike := ev.ceStrike
        peStrike := ev.peStrike
        ceFill := ceFill
        peFill := peFill
        clientId := ev.clientId
        bindingId := ev.bindingId
        eventId := ev.eventId
        paperMode := paperMode
        legs := ev.legs
        ceSymbol := ceSymbol
        peSymbol := peSymbol }

def Reply.isAbort : Reply → Bool
  | .aborted _ => true
  | .filled _ _ _ _ _ => false

def Reply.fill : Reply → OptType → Rat
  | .aborted _, _ => 0
  | .filled _ ceFill _ _ _, .ce => ceFill
  | .filled _ _ peFill _ _, .pe => peFill

/-- The event of `_paper_fill`: the prices of the order, and none for a leg not listed. -/
def paperFill (ev : StraddleOrderEvent) : StraddleFillEvent where
  action := ev.action
  underlying := ev.underlying
  atm := ev.atm
  ceStrike := ev.ceStrike
  peStrike := ev.peStrike
  ceFill := if OptType.ce ∈ ev.legs then ev.ceLtp else 0
  peFill := if OptType.pe ∈ ev.legs then ev.peLtp else 0
  clientId := ev.clientId
  bindingId := ev.bindingId
  eventId := ev.eventId
  legs := ev.legs

def paperReply (ev : StraddleOrderEvent) : Reply :=
  .filled true (if OptType.ce ∈ ev.legs then ev.ceLtp else 0)
    (if OptType.pe ∈ ev.legs then ev.peLtp else 0) (some "") (some "")

theorem paperFill_answers (ev : StraddleOrderEvent) :
    paperFill ev = answerFill ev (paperReply ev) := rfl

/-- Whatever the live path of the bridge publishes for an order of a book is such an
answer. -/
theorem liveFill_answers (call : LiveCall) (client : call.clientId = call.event.clientId)
    (binding : call.bindingId = call.event.bindingId) (state : BridgeState)
    (inputs : OptType → LegInputs) (positions : Option (List (String × Int))) :
    ∃ reply : Reply, (liveFill call state inputs positions).published =
        answerFill call.event reply ∧
      (reply.isAbort = true → call.event.action = .entry) := by
  rw [liveFill]
  dsimp only
  split
  case isTrue aborts =>
    refine ⟨.aborted call.paper, ?_, fun _ => aborts.1⟩
    rw [abortFill, client, binding, answerFill, aborts.1]
  case isFalse =>
    have published (state : BridgeState) (fill : StraddleFillEvent) :
        (book call state fill).published = fill := by
      rw [book]
      split <;> rfl
    generalize (fun optType => doLeg call optType (inputs optType)) = results
    refine ⟨.filled call.paper (normalFill call results).ceFill (normalFill call results).peFill
      (normalFill call results).ceSymbol (normalFill call results).peSymbol, ?_,
      by simp [Reply.isAbort]⟩
    rw [published, normalFill, client, binding]
    rfl

/-! ## The desk -/

/-- An order with what became of it. -/
structure Placed where
  order : StraddleOrderEvent
  reply : Option Reply
deriving DecidableEq

/-- A strategy, the orders that have been dealt with, and those under way. -/
structure Desk where
  strategy : Strategy
  dealt : List Placed
  waiting : List StraddleOrderEvent
deriving DecidableEq

/-- Nothing has been ordered. -/
def Desk.of (strategy : Strategy) : Desk := ⟨strategy, [], []⟩

/-- Orders that no answer has come for. -/
def pending (waiting : List StraddleOrderEvent) : List Placed :=
  waiting.map (fun ev => ⟨ev, none⟩)

/-- Every published order, in order. -/
def Desk.placed (desk : Desk) : List Placed := desk.dealt ++ pending desk.waiting

inductive Incident where
  | candle
  | indexTick (market : Market) (ltp : Rat)
  | optionTick (optType : OptType) (strike ltp : Rat)
  | squareOff (reason : String)
  | answer (reply : Reply)
  | unanswered

structure DeskEvent where
  settings : ExitSettings
  clock : Clock
  incident : Incident

/-- What the strategy handles at an event. -/
def Desk.stimulus (desk : Desk) : Incident → Option Stimulus
  | .candle => some .candle
  | .indexTick market ltp => some (.indexTick market ltp)
  | .optionTick optType strike ltp => some (.optionTick optType strike ltp)
  | .squareOff reason => some (.squareOff reason)
  | .answer reply => desk.waiting.head?.map (fun ev => .fill (answerFill ev reply))
  | .unanswered => none

/-- The next order is dealt with. -/
def Desk.settle (desk : Desk) (reply : Option Reply) : Desk :=
  match desk.waiting with
  | [] => desk
  | ev :: rest => { desk with dealt := desk.dealt ++ [⟨ev, reply⟩], waiting := rest }

/-- The order that an event deals with, if any. -/
def Desk.dealing (desk : Desk) : Incident → Desk
  | .answer reply => desk.settle (some reply)
  | .unanswered => desk.settle none
  | .candle | .indexTick _ _ | .optionTick _ _ _ | .squareOff _ => desk

section Desks

variable (identity : Identity)

/-- The strategy handles a stimulus, and its orders queue up. -/
def Desk.handling (desk : Desk) (moment : Moment) : Desk :=
  let done := respond identity desk.strategy moment
  { desk with strategy := done.1, waiting := desk.waiting ++ ordersOf done.2 }

def deskStep (desk : Desk) (event : DeskEvent) : Desk :=
  match desk.stimulus event.incident with
  | none => desk.dealing event.incident
  | some stimulus =>
      (desk.dealing event.incident).handling identity ⟨event.settings, event.clock, stimulus⟩

/-- The event is a candle that resets the session. -/
def renews (desk : Desk) (event : DeskEvent) : Bool :=
  match event.incident with
  | .candle => newSession event.settings event.clock desk.strategy
  | .indexTick _ _ | .optionTick _ _ _ | .squareOff _ | .answer _ | .unanswered => false

variable {identity} {desk : Desk} {settings : ExitSettings} {clock : Clock}

/-- An answer is one fill, and sends nothing. -/
theorem deskStep_answer {ev : StraddleOrderEvent} {rest : List StraddleOrderEvent}
    (next : desk.waiting = ev :: rest) (reply : Reply) :
    deskStep identity desk ⟨settings, clock, .answer reply⟩ =
      { strategy := { desk.strategy with
          book := (fillLoop identity settings.toSettings clock.now desk.strategy.book
            (answerFill ev reply)).1 }
        dealt := desk.dealt ++ [⟨ev, some reply⟩]
        waiting := rest } := by
  have silent : ordersOf (fillLoop identity settings.toSettings clock.now desk.strategy.book
      (answerFill ev reply)).2 = [] := by
    rw [fillLoop]
    split
    · rfl
    · exact onFill_orders settings.toSettings clock.now desk.strategy.book (answerFill ev reply)
  simp [deskStep, Desk.stimulus, Desk.dealing, Desk.settle, next, Desk.handling, respond,
    Stimulus.handled, StraddleStore.handle, Strategy.withBook, silent]

/-- Without an order under way there is nothing to answer. -/
theorem deskStep_idle (none : desk.waiting = []) (reply : Reply) :
    deskStep identity desk ⟨settings, clock, .answer reply⟩ = desk := by
  simp [deskStep, Desk.stimulus, Desk.dealing, Desk.settle, none]

/-- What everything that a book does but a fill keeps, the strategy keeps between two
answers. -/
theorem handling_invariant {invariant : Book → List StraddleOrderEvent → Prop} {moment : Moment}
    (own : ∀ ev, moment.stimulus ≠ .fill ev)
    (kept : ∀ book after waiting orders, invariant book waiting →
      Did identity moment.settings (resets desk.strategy moment) book after orders →
        invariant after (waiting ++ orders))
    (initially : invariant desk.strategy.book desk.waiting) :
    invariant (desk.handling identity moment).strategy.book
      (desk.handling identity moment).waiting := by
  apply Chain.invariant _ (respond_acts identity desk.strategy moment) desk.waiting initially
  intro book waiting next holds allowed
  apply kept book _ waiting _ holds (move_did next allowed _)
  rintro ev rfl
  exact own ev allowed

/-- The events of a desk: what the strategy does between two answers, an answer to the next
order, or an order that stays unanswered. -/
theorem deskStep_invariant {invariant : Book → List Placed → List StraddleOrderEvent → Prop}
    (event : DeskEvent)
    (kept : ∀ book after waiting orders, invariant book desk.dealt waiting →
      Did identity event.settings (renews desk event) book after orders →
        invariant after desk.dealt (waiting ++ orders))
    (answered : ∀ reply ev rest, event.incident = .answer reply → desk.waiting = ev :: rest →
      invariant (fillLoop identity event.settings.toSettings event.clock.now desk.strategy.book
        (answerFill ev reply)).1 (desk.dealt ++ [⟨ev, some reply⟩]) rest)
    (lost : ∀ ev rest, desk.waiting = ev :: rest →
      invariant desk.strategy.book (desk.dealt ++ [⟨ev, none⟩]) rest)
    (initially : invariant desk.strategy.book desk.dealt desk.waiting) :
    invariant (deskStep identity desk event).strategy.book (deskStep identity desk event).dealt
      (deskStep identity desk event).waiting := by
  obtain ⟨settings, clock, incident⟩ := event
  have handles (stimulus : Stimulus) (own : ∀ ev, stimulus ≠ .fill ev)
      (same : resets desk.strategy ⟨settings, clock, stimulus⟩ =
        renews desk ⟨settings, clock, incident⟩) :
      invariant (desk.handling identity ⟨settings, clock, stimulus⟩).strategy.book desk.dealt
        (desk.handling identity ⟨settings, clock, stimulus⟩).waiting := by
    rw [← same] at kept
    exact @handling_invariant identity desk (fun book => invariant book desk.dealt)
      ⟨settings, clock, stimulus⟩ own kept initially
  cases incident with
  | candle => exact handles .candle (by simp) rfl
  | indexTick market ltp => exact handles (.indexTick market ltp) (by simp) rfl
  | optionTick optType strike ltp => exact handles (.optionTick optType strike ltp) (by simp) rfl
  | squareOff reason => exact handles (.squareOff reason) (by simp) rfl
  | answer reply =>
    cases next : desk.waiting with
    | nil =>
      rw [deskStep_idle next]
      exact initially
    | cons ev rest =>
      rw [deskStep_answer next]
      exact answered reply ev rest rfl next
  | unanswered =>
    cases next : desk.waiting with
    | nil =>
      have same : deskStep identity desk ⟨settings, clock, .unanswered⟩ = desk := by
        simp [deskStep, Desk.stimulus, Desk.dealing, Desk.settle, next]
      rw [same]
      exact initially
    | cons ev rest =>
      have same : deskStep identity desk ⟨settings, clock, .unanswered⟩ =
          { desk with dealt := desk.dealt ++ [⟨ev, none⟩], waiting := rest } := by
        simp [deskStep, Desk.stimulus, Desk.dealing, Desk.settle, next]
      rw [same]
      exact lost ev rest next

end Desks

/-! ## A day with a roll -/

/-- One trade a day, and a roll of each leg that falls below twenty. -/
def decaying : ExitSettings :=
  { targeted with
    maxTrades := 1
    dayProfitTargetPct := 0
    ltpDecayEnabled := true
    ltpExitMin := 20 }

def happens (seconds : Int) (incident : Incident) : DeskEvent :=
  ⟨decaying, { day := 1, seconds := seconds, monotonic := seconds }, incident⟩

/-- A pair, and a partner for each leg. -/
def partnerOffered : Market := { pairOffered with partner := fun _ => some (23900, 60) }

/-- A pair is entered. -/
def entering : List DeskEvent :=
  [happens 33660 .candle,
    happens 33661 (.indexTick partnerOffered 24000),
    happens 33662 (.optionTick .ce 24000 100),
    happens 33662 (.optionTick .pe 24000 90),
    happens 33663 (.indexTick partnerOffered 24000)]

def entryFilled : DeskEvent :=
  happens 33664 (.answer (.filled false 101 90 (some "CE") (some "PE")))

/-- The put decays and is rolled: an EXIT and an ENTRY of one leg. -/
def rollingPut : List DeskEvent :=
  [happens 33800 (.optionTick .pe 24000 15), happens 33801 (.indexTick partnerOffered 24000)]

def exitFilled : DeskEvent :=
  happens 33802 (.answer (.filled false 100 15 (some "") (some "PE")))

end OptionChain.OrderDesk
