import OptionChain.CondorEffects
import OptionChain.Tasks

/-!
# The loops of the iron condor, interleaved

The tick loop and the candle loop both try to enter. An attempt may be suspended
while the feeder subscribes its strikes, and every trade log suspends its caller
where a database is attached. Here each loop's work is cut at these points; with
no database and no waiting feeder it is the work of the operations in
`IronCondor`, one after the other.
-/

namespace OptionChain.CondorTasks

open Broker CondorPosition IronCondor

/-- Where a handler is suspended. After the log of an entry nothing is left to do,
so an entry ends with its order. -/
inductive Task where
  | subscribing (plan : EntryPlan)
  | closing (locked : Bool)
  | rolling (adjCount : Nat) (maxAdj : Int)
  | marking
deriving DecidableEq

/-- What may start: a candle, a tick, an option tick, or an adjustment that is
called directly. The feeder decides whether a subscription waits. -/
inductive Handler where
  | candle (settings : Settings) (clock : Clock) (tradeId : String) (waits : Bool)
  | indexTick (settings : Settings) (clock : Clock) (ltp : Rat) (tradeId : String)
    (waits : Bool)
  | optionTick (tick : OptionTick)
  | adjust (settings : Settings) (clock : Clock) (side : OptType)
deriving DecidableEq

/-- The settings and clocks at which a task goes on, and a fresh trade id. -/
structure Answer where
  settings : Settings
  clock : Clock
  tradeId : String
deriving DecidableEq

/-- `_try_entry`, suspended at its subscriptions where the feeder waits. -/
def startEntry (settings : Settings) (clock : Clock) (tradeId : String) (waits : Bool)
    (strategy : Strategy) : Strategy × Option Task :=
  match tryEntry settings clock strategy with
  | (tried, none) => (tried, none)
  | (tried, some plan) =>
      if waits then (tried, some (.subscribing plan))
      else (fireEntry settings clock plan tradeId tried, none)

section Logs

variable (logs : Bool)

/-- `_close_position` for a caller that holds the adjustment lock or does not. -/
def startClose (settings : Settings) (clock : Clock) (reason : String) (locked : Bool)
    (strategy : Strategy) : Strategy × Option Task :=
  match beginClose reason strategy with
  | (closing, true) =>
      if logs then (closing, some (.closing locked))
      else
        let closed := finishClose settings clock closing
        (if locked then unlock closed else closed, none)
  | (same, false) => (if locked then unlock same else same, none)

/-- The managing branch of the tick loop. A close leaves nothing to adjust. -/
def startManage (settings : Settings) (clock : Clock) (strategy : Strategy) :
    Strategy × Option Task :=
  match strategy.position.bind (exitReason settings clock) with
  | some reason => startClose logs settings clock reason false strategy
  | none => (manage settings clock strategy, none)

/-- The hard stop after the log of an adjustment. -/
def finishAdjust (settings : Settings) (clock : Clock) (adjCount : Nat) (maxAdj : Int)
    (strategy : Strategy) : Strategy × Option Task :=
  if maxAdj ≤ adjCount then
    startClose logs settings clock "max_adjustments_reached" true strategy
  else (unlock strategy, none)

/-- `adjust_iron_condor`. Only a position that is marked broken is logged as such. -/
def startAdjust (settings : Settings) (clock : Clock) (side : OptType)
    (strategy : Strategy) : Strategy × Option Task :=
  match beginAdjust settings side strategy with
  | (same, .skipped) => (same, none)
  | (failed, .failed) =>
      if logs ∧ ∃ pos ∈ failed.position, pos.status = .broken then (failed, some .marking)
      else (unlock failed, none)
  | (rolled, .rolled adjCount maxAdj) =>
      if logs then (rolled, some (.rolling adjCount maxAdj))
      else finishAdjust logs settings clock adjCount maxAdj rolled

def startHandler (strategy : Strategy) : Handler → Strategy × Option Task
  | .candle settings clock tradeId waits => startEntry settings clock tradeId waits strategy
  | .indexTick settings clock ltp tradeId waits =>
      if strategy.tickLoopAlive then
        let ticked := strategy.ticked ltp
        if managed ticked then
          if ticked.adjusting then (ticked, none) else startManage logs settings clock ticked
        else startEntry settings clock tradeId waits ticked
      else (strategy, none)
  | .optionTick tick => (optionTick tick strategy, none)
  | .adjust settings clock side => startAdjust logs settings clock side strategy

def resumeTask (strategy : Strategy) (task : Task) (answer : Answer) :
    Strategy × Option Task :=
  match task with
  | .subscribing plan =>
      (fireEntry answer.settings answer.clock plan answer.tradeId strategy, none)
  | .closing locked =>
      let closed := finishClose answer.settings answer.clock strategy
      (if locked then unlock closed else closed, none)
  | .rolling adjCount maxAdj =>
      finishAdjust logs answer.settings answer.clock adjCount maxAdj strategy
  | .marking => (unlock strategy, none)

/-- The loops as a program over the strategy. -/
def program : Tasks.Program Strategy Handler Task Answer where
  start := startHandler logs
  resume := resumeTask logs

end Logs

section Sequential

variable (settings : Settings) (clock : Clock) (strategy : Strategy)

theorem startEntry_sequential (tradeId : String) :
    startEntry settings clock tradeId false strategy =
      (enter settings clock tradeId strategy, none) := by
  rw [startEntry, enter]
  cases tryEntry settings clock strategy with
  | mk tried planned =>
    cases planned with
    | none => rfl
    | some plan => rfl

theorem startClose_sequential (reason : String) :
    startClose false settings clock reason false strategy =
      (closePosition settings clock reason strategy, none) := by
  rw [startClose, closePosition]
  cases beginClose reason strategy with
  | mk closing begun =>
    cases begun with
    | true => rfl
    | false => rfl

theorem startManage_sequential :
    startManage false settings clock strategy = (manage settings clock strategy, none) := by
  rw [startManage]
  cases held : strategy.position with
  | none => rfl
  | some pos =>
    cases due : exitReason settings clock pos with
    | none => simp [due]
    | some reason =>
      have closed : (closePosition settings clock reason strategy).position = none := by
        simp [closePosition, beginClose, held, finishClose, persist]
      have worked : manage settings clock strategy =
          closePosition settings clock reason strategy := by
        simp only [manage, openTick, checkExits, held, due, checkAdjustmentCriteria,
          adjustmentSide, closed]
        split_ifs <;> rfl
      simp only [Option.bind_some, due, startClose_sequential, worked]

/-- The handler of an operation, for a feeder that does not wait. A close has none of
its own. -/
def handlerOf (event : CondorEvent) : Option Handler :=
  match event.operation with
  | .candle tradeId => some (.candle event.settings event.clock tradeId false)
  | .indexTick ltp tradeId => some (.indexTick event.settings event.clock ltp tradeId false)
  | .optionTick tick => some (.optionTick tick)
  | .adjust side => some (.adjust event.settings event.clock side)
  | .close _ => none

/-- Without a database too, a handler is its operation. -/
theorem startHandler_sequential (event : CondorEvent) (handler : Handler)
    (starts : handlerOf event = some handler) :
    startHandler false strategy handler = (operate strategy event, none) := by
  obtain ⟨settings, clock, operation⟩ := event
  cases operation with
  | candle tradeId =>
    cases starts
    exact startEntry_sequential settings clock strategy tradeId
  | indexTick ltp tradeId =>
    cases starts
    simp only [startHandler, operate, indexTick, startEntry_sequential, startManage_sequential]
    split_ifs <;> rfl
  | optionTick tick =>
    cases starts
    rfl
  | adjust side =>
    cases starts
    simp only [startHandler, startAdjust, operate, adjustIronCondor]
    cases beginAdjust settings side strategy with
    | mk begun outcome =>
      cases outcome with
      | skipped => rfl
      | failed => simp
      | rolled adjCount maxAdj =>
        simp only [Bool.false_eq_true, if_false, finishAdjust, startClose, closePosition]
        split_ifs
        · cases beginClose "max_adjustments_reached" begun with
          | mk closing closes =>
            cases closes with
            | true => rfl
            | false => rfl
        · rfl
  | close reason => cases starts

end Sequential

end OptionChain.CondorTasks
