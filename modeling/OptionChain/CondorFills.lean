import OptionChain.CondorEffects
import OptionChain.ContractSymbols
import OptionChain.PositionRouting

/-!
# The legs of a live iron condor

The bridge sends the four legs of an entry one after the other, the shorts first. A leg
without a symbol, a call that raises and an order that is not filled all end in a price,
and the strategy, which has recorded its position before, listens to ticks and candles
only.
-/

namespace OptionChain.CondorFills

open Broker CondorEffects CondorPosition ContractSymbols IronCondor Rounding StraddleRouting
open PositionRouting (Live handleCondor)

inductive LegName where
  | shortCe
  | shortPe
  | longCe
  | longPe
deriving DecidableEq

/-- One round of the loop in `_live_fill`. -/
structure Leg where
  name : LegName
  strike : Rat
  optType : OptType
  side : OrderSide
  fallbackLtp : Rat
deriving DecidableEq

/-- An entry sells the shorts and buys the hedges, anything else does the reverse. -/
def legs (event : ICOrderEvent) : List Leg :=
  let short := if event.action = .entry then OrderSide.sell else .buy
  let long := if event.action = .entry then OrderSide.buy else .sell
  [⟨.shortCe, event.shortCeStrike, .ce, short, event.shortCeLtp⟩,
    ⟨.shortPe, event.shortPeStrike, .pe, short, event.shortPeLtp⟩,
    ⟨.longCe, event.longCeStrike, .ce, long, event.longCeLtp⟩,
    ⟨.longPe, event.longPeStrike, .pe, long, event.longPeLtp⟩]

/-- What becomes of a leg: the symbol, empty where there is none, the answers of the two
broker calls, absent where they raise, and what the broker has traded of the order by the
time all is handled, whatever it answered. -/
structure Outcome where
  symbol : String
  orderId : Option String
  status : Option (Option OrderFill)
  traded : Int
deriving DecidableEq

/-- `ICFillEvent`. -/
structure ICFillEvent where
  action : Action
  underlying : String
  shortCeFill : Rat
  shortPeFill : Rat
  longCeFill : Rat
  longPeFill : Rat
  clientId : String
  bindingId : String
  eventId : String
  paperMode : Bool := true
deriving DecidableEq

/-- `ev.action[:3]`. -/
def actionTag : Action → String
  | .entry => "ENT"
  | .adjustClose => "ADJ"
  | .adjustOpen => "ADJ"
  | .exit => "EXI"

section LiveFill

variable (event : ICOrderEvent) (clientId bindingId : String)

def qty : Int := event.lotSize * event.lotMultiplier

def request (leg : Leg) (symbol : String) : OrderRequest where
  brokerSymbol := symbol
  exchange := orderExchange event.underlying
  side := leg.side
  qty := qty event
  orderType := .market
  tag := "IC_" ++ event.underlying ++ "_" ++ actionTag event.action
  clientId := clientId

/-- The order of a leg, if one is sent, and the price that is noted for it. -/
def sendLeg (leg : Leg) (outcome : Outcome) : Option OrderRequest × Rat :=
  if outcome.symbol = "" then (none, leg.fallbackLtp)
  else
    (some (request event clientId leg outcome.symbol),
      match outcome.orderId, outcome.status with
      | some _, some (some fill) => fill.avgPrice
      | _, _ => leg.fallbackLtp)

/-- What the broker holds of a leg. -/
def held (leg : Leg) (outcome : Outcome) : Int :=
  match (sendLeg event clientId leg outcome).1 with
  | none => 0
  | some _ => outcome.traded

/-- `fills`, under the type and the whole strike of each leg. -/
def fills (outcome : LegName → Outcome) : List ((OptType × Int) × Rat) :=
  (legs event).map (fun leg =>
    ((leg.optType, towardZero leg.strike), (sendLeg event clientId leg (outcome leg.name)).2))

/-- `fills.get`, where a later leg has replaced an earlier one. -/
def fillPrice (outcome : LegName → Outcome) (optType : OptType) (strike ltp : Rat) : Rat :=
  ((fills event clientId outcome).reverse.lookup (optType, towardZero strike)).getD ltp

/-- The event that `_live_fill` publishes. -/
def liveFill (outcome : LegName → Outcome) : ICFillEvent where
  action := event.action
  underlying := event.underlying
  shortCeFill := fillPrice event clientId outcome .ce event.shortCeStrike event.shortCeLtp
  shortPeFill := fillPrice event clientId outcome .pe event.shortPeStrike event.shortPeLtp
  longCeFill := fillPrice event clientId outcome .ce event.longCeStrike event.longCeLtp
  longPeFill := fillPrice event clientId outcome .pe event.longPeStrike event.longPeLtp
  clientId := clientId
  bindingId := bindingId
  eventId := event.eventId
  paperMode := false

/-- The event that `_paper_fill` publishes. -/
def paperFill : ICFillEvent where
  action := event.action
  underlying := event.underlying
  shortCeFill := event.shortCeLtp
  shortPeFill := event.shortPeLtp
  longCeFill := event.longCeLtp
  longPeFill := event.longPeLtp
  clientId := clientId
  bindingId := bindingId
  eventId := event.eventId

end LiveFill

/-! ## The bridge and the strategy -/

/-- The bridge's surroundings while it handles an order. -/
structure Bridge (β : Type) where
  registry : ClientProfiles.ClientRegistry
  db : ClientDb
  brokers : String → String → Option β
  outcome : Execution β → LegName → Outcome

section Entry

variable {β : Type} (bridge : Bridge β)

def Bridge.executions (event : ICOrderEvent) : List (Execution β) :=
  handleCondor bridge.db bridge.brokers event bridge.registry

/-- What the bridge publishes for an order. -/
def Bridge.handle (event : ICOrderEvent) : List ICFillEvent :=
  (bridge.executions event).map (fun execution =>
    match execution.fill with
    | .paper _ => paperFill event execution.clientId execution.bindingId
    | .live _ => liveFill event execution.clientId execution.bindingId (bridge.outcome execution))

/-- What is on the bus that the strategy could hear. -/
inductive Message where
  | orderFill (event : ICFillEvent)
  | market (event : CondorEvent)

/-- The three loops of the strategy subscribe to candles, index ticks and option ticks. No
queue of it takes an order fill. -/
def consume (strategy : Strategy) : Message → Strategy
  | .orderFill _ => strategy
  | .market event => operate strategy event

variable (settings : Settings) (clock : Clock) (plan : EntryPlan) (tradeId : String)
  (strategy : Strategy)

/-- The orders that the entry publishes. -/
def entryOrders : List ICOrderEvent :=
  (fireEntry settings clock plan tradeId strategy).published.drop strategy.published.length

/-- The strategy when the bridge has handled its orders and it has consumed what that has
published. -/
def afterEntry : Strategy :=
  (((entryOrders settings clock plan tradeId strategy).flatMap bridge.handle).map
    Message.orderFill).foldl consume (fireEntry settings clock plan tradeId strategy)

/-- The strategy holds an open position. -/
def HoldsOpen (strategy : Strategy) : Prop := ∃ pos ∈ strategy.position, pos.status = .open

/-- What the broker of an execution holds of a leg. -/
def heldBy (event : ICOrderEvent) (execution : Execution β) (leg : Leg) : Int :=
  held event execution.clientId leg (bridge.outcome execution leg.name)

/-- With an open position every live broker holds all four legs in full, without one it
holds nothing. -/
structure CompleteOrAbsent : Prop where
  complete : HoldsOpen (afterEntry bridge settings clock plan tradeId strategy) →
    ∀ event ∈ entryOrders settings clock plan tradeId strategy,
      ∀ execution ∈ bridge.executions event, Live execution →
        ∀ leg ∈ legs event, heldBy bridge event execution leg = qty event
  absent : ¬ HoldsOpen (afterEntry bridge settings clock plan tradeId strategy) →
    ∀ event ∈ entryOrders settings clock plan tradeId strategy,
      ∀ execution ∈ bridge.executions event, Live execution →
        ∀ leg ∈ legs event, heldBy bridge event execution leg = 0

/-- The leg has a symbol and its order is traded in full, or the order is for no lots. -/
def TradedInFull (event : ICOrderEvent) (outcome : Outcome) : Prop :=
  (outcome.symbol ≠ "" ∧ outcome.traded = qty event) ∨ (outcome.symbol = "" ∧ qty event = 0)

end Entry

/-! ## One entry -/

section Entry

variable {β : Type} {bridge : Bridge β} {settings : Settings} {clock : Clock} {plan : EntryPlan}
  {tradeId : String} {strategy : Strategy}

theorem held_eq_qty_iff (event : ICOrderEvent) (clientId : String) (leg : Leg)
    (outcome : Outcome) : held event clientId leg outcome = qty event ↔
      TradedInFull event outcome := by
  unfold held sendLeg TradedInFull
  by_cases symbol : outcome.symbol = ""
  · simp [symbol, eq_comm]
  · simp [symbol]

/-- Order fills leave the strategy as it is. -/
theorem consume_fills (fills : List ICFillEvent) (strategy : Strategy) :
    (fills.map Message.orderFill).foldl consume strategy = strategy := by
  induction fills with
  | nil => rfl
  | cons fill rest inductionHypothesis => exact inductionHypothesis

/-- An entry publishes nothing, or an order and then an open position stands. -/
theorem entryOrders_cases (bridge : Bridge β) (settings : Settings) (clock : Clock)
    (plan : EntryPlan) (tradeId : String) (strategy : Strategy) :
    entryOrders settings clock plan tradeId strategy = [] ∨
      HoldsOpen (afterEntry bridge settings clock plan tradeId strategy) := by
  rw [afterEntry, consume_fills, entryOrders]
  cases fired : entryFor settings clock plan tradeId strategy with
  | none =>
    left
    simp [fireEntry, fired]
  | some pos =>
    right
    have opened := entryFor_open fired
    exact ⟨pos, by simp [fireEntry, fired, persist, opened], opened⟩

/-- After an entry a condor is complete or absent exactly if at every live broker every
leg has a symbol and its order is traded in full. -/
theorem entry_complete_iff (bridge : Bridge β) (settings : Settings) (clock : Clock)
    (plan : EntryPlan) (tradeId : String) (strategy : Strategy) :
    CompleteOrAbsent bridge settings clock plan tradeId strategy ↔
      ∀ event ∈ entryOrders settings clock plan tradeId strategy,
        ∀ execution ∈ bridge.executions event, Live execution →
          ∀ leg ∈ legs event, TradedInFull event (bridge.outcome execution leg.name) := by
  rcases entryOrders_cases bridge settings clock plan tradeId strategy with quiet | holds
  · have vacuous : ∀ {holds : ICOrderEvent → Prop},
        ∀ event ∈ entryOrders settings clock plan tradeId strategy, holds event := by
      rw [quiet]
      exact fun _ => nofun
    exact ⟨fun _ => vacuous, fun _ => ⟨fun _ => vacuous, fun _ => vacuous⟩⟩
  · constructor
    · intro whole event ordered execution executed live leg listed
      have full := whole.complete holds event ordered execution executed live leg listed
      exact (held_eq_qty_iff event execution.clientId leg _).mp full
    · intro full
      refine ⟨?_, fun flat => absurd holds flat⟩
      intro _ event ordered execution executed live leg listed
      have traded := full event ordered execution executed live leg listed
      exact (held_eq_qty_iff event execution.clientId leg _).mpr traded

end Entry

/-! ## An entry at 24600 -/

/-- A live binding, with what becomes of each leg. -/
def liveBridge (outcome : LegName → Outcome) : Bridge String where
  registry := [{ clientId := "A" }]
  db :=
    { bindings := [⟨"A", "B1", true, true, some "live"⟩]
      deployments := [⟨"A", "B1", "iron_condor", "NIFTY", true, some 1⟩] }
  brokers := fun _ _ => some "DELTA"
  outcome := fun _ => outcome

def pricedStrategy : Strategy where
  underlying := "NIFTY"
  spot := 24600
  prem := (((QuoteCache.empty.put 10 24900 .ce 100).put 10 24300 .pe 100).put 10 25050 .ce 50).put
    10 24150 .pe 50

def entryClock : Clock := { noon with timeOfDay := 34000, today := 5, expiries := [10] }

def entryPlan : EntryPlan := ⟨24600, 24900, 24300, 25050, 24150, [10]⟩

def filledLeg : Outcome := ⟨"NIFTY", some "1", some (some ⟨65, 100, .complete⟩), 65⟩

/-- Four fills make a complete condor, though no status is read of the last. -/
theorem four_fills_complete :
    CompleteOrAbsent
      (liveBridge (fun name => if name = .longPe then { filledLeg with status := none }
        else filledLeg))
      Settings.shipped entryClock entryPlan "t1" pricedStrategy := by
  apply (entry_complete_iff _ _ _ _ _ _).mpr
  intro event ordered execution executed live leg listed
  have lots : ∀ event ∈ entryOrders Settings.shipped entryClock entryPlan "t1" pricedStrategy,
      qty event = 65 := by decide +kernel
  left
  rw [lots event ordered]
  simp only [liveBridge]
  split <;> exact ⟨by decide, rfl⟩

/-- The hedge of the call is rejected: its short stays, and the strategy holds on. -/
theorem rejected_hedge_leaves_short :
    let bridge := liveBridge (fun name =>
      if name = .longCe then ⟨"NIFTY", some "3", some (some ⟨0, 0, .rejected⟩), 0⟩
      else filledLeg)
    let orders := entryOrders Settings.shipped entryClock entryPlan "t1" pricedStrategy
    orders.map (fun event => (legs event).map
      (heldBy bridge event ⟨"A", "B1", .live "DELTA"⟩)) = [[65, 65, 0, 65]] ∧
    ¬ CompleteOrAbsent bridge Settings.shipped entryClock entryPlan "t1" pricedStrategy := by
  intro bridge orders
  have amounts : orders.map (fun event => (legs event).map
      (heldBy bridge event ⟨"A", "B1", .live "DELTA"⟩)) = [[65, 65, 0, 65]] := by
    decide +kernel
  refine ⟨amounts, ?_⟩
  intro whole
  have some_order : orders ≠ [] := by
    intro none
    rw [none] at amounts
    cases amounts
  obtain ⟨event, ordered⟩ := List.exists_mem_of_ne_nil orders some_order
  have executed : ∀ event ∈ orders, ⟨"A", "B1", .live "DELTA"⟩ ∈ bridge.executions event := by
    decide +kernel
  have short_of : ∀ event ∈ orders, ∃ leg ∈ legs event,
      heldBy bridge event ⟨"A", "B1", .live "DELTA"⟩ leg ≠ qty event := by decide +kernel
  have holds := (entryOrders_cases bridge Settings.shipped entryClock entryPlan "t1"
    pricedStrategy).resolve_left some_order
  obtain ⟨leg, listed, missing⟩ := short_of event ordered
  exact missing (whole.complete holds event ordered _ (executed event ordered) ⟨"DELTA", rfl⟩
    leg listed)

end OptionChain.CondorFills
