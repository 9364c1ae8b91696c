import OptionChain.ExecutorBooking
import OptionChain.StraddleBridge

/-!
# What a live EXIT reports

Both actions of the bridge share the code after the atomicity guard. For an EXIT
there is no guard, so every leg the event lists goes into the trade history with an
exit price and into the published fill, whatever its buy-back came to.

The report is right exactly if each of these legs was really bought back in full.
-/

namespace OptionChain.ExitReport

open Broker StraddleEvents StraddleBridge SmartExecutor ExecutorBooking

/-- What one leg of an EXIT meets: its symbol, the broker, and later answers. -/
structure ExitLeg where
  symbol : Option String
  venue : Venue
  statuses : Nat → Option OrderFill

/-- The executor of an EXIT chases once. -/
def exitChases : Nat := 1

def ExitLeg.inputs (leg : ExitLeg) : LegInputs where
  symbol := leg.symbol
  execute order := (executeLeg leg.venue order exitChases).2
  statuses := leg.statuses

/-- The quantity that the orders of a leg really bought. -/
def boughtBack (call : LiveCall) (leg : ExitLeg) : Int :=
  match usable leg.symbol with
  | none => 0
  | some symbol => realQty (executeLeg leg.venue (call.legOrder symbol) exitChases).1

/-- One leg of a closed-trade record. -/
structure HistoryLeg where
  side : OptType
  strike : Rat
  entry : Rat
  exit : Rat
  pnl : Rat
deriving DecidableEq

section History

variable (call : LiveCall)

def historyLeg (fill : StraddleFillEvent) (side : OptType) (entry : Rat) : HistoryLeg where
  side := side
  strike := call.event.strike side
  entry := entry
  exit := fill.fill side
  pnl := (entry - fill.fill side) * call.qty

/-- The sides that `log_exit` records: those of the event, or both if it lists none. -/
def historySides : List OptType :=
  if call.event.legs = [] then [.ce, .pe] else call.event.legs

/-- The record of `log_exit`. -/
def logExitRecord (fill : StraddleFillEvent) (entryCe entryPe : Rat) : List HistoryLeg :=
  [historyLeg call fill .ce entryCe, historyLeg call fill .pe entryPe].filter
    (fun leg => leg.side ∈ historySides call)

/-- The legs that some actions write to the trade history. -/
def history (effects : List Effect) : List HistoryLeg :=
  effects.flatMap (fun effect =>
    match effect with
    | .logExit fill entryCe entryPe => logExitRecord call fill entryCe entryPe
    | .flatten _ | .cancel _ | .reconcile _ | .logEntry _ => [])

/-- The leg is written to the history, or listed by the published EXIT. -/
def Reported (outcome : LiveOutcome) (side : OptType) : Prop :=
  (∃ leg ∈ history call outcome.effects, leg.side = side) ∨
    (outcome.published.action = .exit ∧ side ∈ outcome.published.legs)

/-- Only legs that were bought back in full are reported. -/
def ReportsClosed (legs : OptType → ExitLeg) (outcome : LiveOutcome) : Prop :=
  ∀ side, Reported call outcome side → call.qty ≤ boughtBack call (legs side)

theorem mem_logExitRecord (fill : StraddleFillEvent) (entryCe entryPe : Rat) (side : OptType) :
    (∃ leg ∈ logExitRecord call fill entryCe entryPe, leg.side = side) ↔
      side ∈ historySides call := by
  simp only [logExitRecord, List.mem_filter, decide_eq_true_eq]
  constructor
  · rintro ⟨leg, ⟨_, listed⟩, rfl⟩
    exact listed
  · intro listed
    cases side with
    | ce => exact ⟨historyLeg call fill .ce entryCe, ⟨by simp, listed⟩, rfl⟩
    | pe => exact ⟨historyLeg call fill .pe entryPe, ⟨by simp, listed⟩, rfl⟩

/-- No outcome of a leg keeps an EXIT from its normal end. -/
theorem liveFill_exit (exit : call.event.action = .exit) (state : BridgeState)
    (inputs : OptType → LegInputs) (positions : Option (List (String × Int))) :
    ∃ entryCe entryPe,
      let fill := normalFill call (fun side => doLeg call side (inputs side))
      (liveFill call state inputs positions).effects = [.logExit fill entryCe entryPe] ∧
        (liveFill call state inputs positions).published = fill := by
  have unguarded : ¬ (call.event.action = .entry ∧ call.paper = false ∧
      asymmetric call (fun side => doLeg call side (inputs side)) = true) := by
    simp [exit]
  have ends : liveFill call state inputs positions =
      book call (rememberOrders call (fun side => doLeg call side (inputs side)) state)
        (normalFill call (fun side => doLeg call side (inputs side))) :=
    if_neg unguarded
  rw [ends]
  unfold book
  rw [exit]
  exact ⟨_, _, rfl, rfl⟩

/-- An EXIT reports the legs that it lists, and all of them. -/
theorem reported_iff (exit : call.event.action = .exit) (state : BridgeState)
    (inputs : OptType → LegInputs) (positions : Option (List (String × Int))) (side : OptType) :
    Reported call (liveFill call state inputs positions) side ↔ side ∈ historySides call := by
  obtain ⟨entryCe, entryPe, effects, published⟩ := liveFill_exit call exit state inputs positions
  unfold Reported
  rw [effects, published]
  simp only [history, List.flatMap_singleton, mem_logExitRecord]
  constructor
  · rintro (recorded | ⟨-, listed⟩)
    · exact recorded
    · unfold historySides
      split
      · cases side <;> simp
      · exact listed
  · exact Or.inl

end History

/-- A live EXIT reports only what it closed exactly if every leg it lists has a symbol
and orders that really filled its quantity. -/
theorem exit_report_iff (call : LiveCall) (exit : call.event.action = .exit)
    (legs : OptType → ExitLeg) (state : BridgeState)
    (positions : Option (List (String × Int))) :
    ReportsClosed call legs (liveFill call state (fun side => (legs side).inputs) positions) ↔
      ∀ side ∈ historySides call, call.qty ≤ boughtBack call (legs side) := by
  constructor
  · intro closed side listed
    exact closed side ((reported_iff call exit state _ positions side).mpr listed)
  · intro filled side reported
    exact filled side ((reported_iff call exit state _ positions side).mp reported)

/-- A leg that was never worked is reported at its signal price. -/
theorem failed_leg_price (call : LiveCall) (side : OptType) (leg : ExitLeg)
    (failed : ∀ symbol ∈ usable leg.symbol, leg.inputs.execute (call.legOrder symbol) = none) :
    (doLeg call side leg.inputs).price = call.event.ltp side := by
  have resolved : leg.inputs.symbol = leg.symbol := rfl
  unfold doLeg
  rw [resolved]
  cases found : usable leg.symbol with
  | none => rfl
  | some symbol =>
    dsimp only
    rw [failed symbol found]

/-- An EXIT of one lot on both legs. -/
def closeBoth : LiveCall where
  event :=
    { action := .exit, underlying := "NIFTY", atm := 24500, ceStrike := 24500, peStrike := 24500,
      ceLtp := 120, peLtp := 80, lotMultiplier := 1, lotSize := 75, spot := 24510,
      closeReason := "stop_loss", ceEntry := 100, peEntry := 90,
      eventId := ⟨"NIFTY", .exit, 2⟩ }
  clientId := "A"
  bindingId := "A_b1"
  exchange := "NFO"
  product := "MIS"
  paper := false

/-- A broker that fills every order, or none. -/
def allOrNothing (accepts : Bool) : Venue where
  quote _ := none
  place _ request :=
    if accepts then
      some ⟨"O1", request.qty, 121, .complete, [some ⟨request.qty, 121, .complete⟩], none⟩
    else none

def closingLeg (accepts : Bool) : ExitLeg where
  symbol := some "NIFTY2661624500CE"
  venue := allOrNothing accepts
  statuses _ := none

theorem both_legs_bought_back :
    ReportsClosed closeBoth (fun _ => closingLeg true)
      (liveFill closeBoth ⟨fun _ _ => none, fun _ => none⟩ (fun _ => (closingLeg true).inputs)
        none) :=
  (exit_report_iff closeBoth rfl (fun _ => closingLeg true) _ none).mpr
    (fun _ _ => by decide)

/-- A refused PE leg is in the history and in the published fill, and still short. -/
theorem refused_leg_reported :
    boughtBack closeBoth (closingLeg false) = 0 ∧
      ¬ ReportsClosed closeBoth (fun side => closingLeg (decide (side = .ce)))
        (liveFill closeBoth ⟨fun _ _ => none, fun _ => none⟩
          (fun side => (closingLeg (decide (side = .ce))).inputs) none) := by
  have short : boughtBack closeBoth (closingLeg false) = 0 := by decide
  refine ⟨short, ?_⟩
  intro closed
  have full : closeBoth.qty ≤ boughtBack closeBoth (closingLeg false) :=
    closed .pe ((reported_iff closeBoth rfl _ _ none .pe).mpr (by decide))
  rw [short] at full
  exact absurd full (by decide)

end OptionChain.ExitReport
