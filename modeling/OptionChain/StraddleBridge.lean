import OptionChain.Broker
import OptionChain.StraddleEvents

/-!
# The live path of the straddle bridge

`_live_fill` works both legs of an order through an executor, may rewrite a
leg's result from later status answers, and then looks at the rewritten
quantities: an ENTRY that filled on one side only is flattened, reconciled and
aborted, everything else is published as a normal fill.

What the broker answers is an input of each call. The call returns the bridge
state, the broker and log actions in order, and the fill event it publishes last.
Log texts are left out.
-/

namespace OptionChain.StraddleBridge

open Broker StraddleEvents

/-- What one leg meets: the resolved symbol, the executor (none raises), and the
answers of `get_order_status` afterwards (none raises). -/
structure LegInputs where
  symbol : Option String
  execute : LegOrder → Option LegFill
  statuses : Nat → Option OrderFill

/-- The result tuple of `_do_leg`, and the order id it keeps. -/
structure LegResult where
  price : Rat
  filledQty : Int
  symbol : Option String
  orderId : Option String
deriving DecidableEq

/-- The settings and identity of one call. -/
structure LiveCall where
  event : StraddleOrderEvent
  clientId : String
  bindingId : String
  exchange : String
  product : String
  paper : Bool

def LiveCall.qty (call : LiveCall) : Int := call.event.lotSize * call.event.lotMultiplier

/-- `side = SELL if ev.action == "ENTRY" else BUY`. -/
def LiveCall.side (call : LiveCall) : OrderSide :=
  match call.event.action with
  | .entry => .sell
  | .exit => .buy

def actionText : Action → String
  | .entry => "ENTRY"
  | .exit => "EXIT"

/-- The order a leg hands to the executor. -/
def LiveCall.legOrder (call : LiveCall) (symbol : String) : LegOrder where
  brokerSymbol := symbol
  exchange := call.exchange
  side := call.side
  qty := call.qty
  product := call.product
  tag := "SS_" ++ call.event.underlying ++ "_" ++ actionText call.event.action
  clientId := call.clientId
  useLimit := decide (call.exchange = "DELTA")
  tick := 0

/-- `getattr(_f, "filled_qty", 0)`: an `OrderFill` has no such attribute, so the
default is read. -/
def filledQtyAttribute (_status : OrderFill) : Int := 0

/-- The polling after an under-fill, with its remaining attempts. A priced answer
replaces price and quantity and ends it; so does an exception. -/
def confirmFill (qty : Int) (statuses : Nat → Option OrderFill) :
    Nat → Nat → Rat × Int → Rat × Int
  | 0, _, result => result
  | remaining + 1, attempt, result =>
      match statuses attempt with
      | none => result
      | some f =>
          if 0 < f.avgPrice then
            (f.avgPrice, if 0 < filledQtyAttribute f then filledQtyAttribute f else qty)
          else confirmFill qty statuses remaining (attempt + 1) result

/-- An empty symbol counts as a missing one. -/
def usable (symbol : Option String) : Option String := symbol.filter (· ≠ "")

/-- `_do_leg`. -/
def doLeg (call : LiveCall) (optType : OptType) (inputs : LegInputs) : LegResult :=
  let fallback := call.event.ltp optType
  match usable inputs.symbol with
  | none => ⟨fallback, 0, inputs.symbol, none⟩
  | some symbol =>
      match inputs.execute (call.legOrder symbol) with
      | none => ⟨fallback, 0, some symbol, none⟩
      | some legfill =>
          let price := if 0 < legfill.avgPrice then legfill.avgPrice else fallback
          let result :=
            if legfill.filledQty < call.qty ∧ legfill.orderIds ≠ [] then
              confirmFill call.qty inputs.statuses 5 0 (price, legfill.filledQty)
            else (price, legfill.filledQty)
          ⟨result.1, result.2, some symbol, legfill.orderIds.getLast?⟩

/-- What the bridge remembers: the last order id of each leg of a binding, and
the last ENTRY of each underlying. -/
structure BridgeState where
  orderIds : String × String × String → OptType → Option String
  lastEntry : String → Option StraddleOrderEvent

/-- Broker and log actions. -/
inductive Effect where
  | flatten (request : OrderRequest)
  | cancel (orderId : String)
  | reconcile (request : OrderRequest)
  | logEntry (fill : StraddleFillEvent)
  | logExit (fill : StraddleFillEvent) (ceEntry peEntry : Rat)
deriving DecidableEq

structure LiveOutcome where
  state : BridgeState
  effects : List Effect
  published : StraddleFillEvent

section Call

variable (call : LiveCall)

/-- `_legs`: the legs of the event, CE before PE. -/
def LiveCall.legs : List OptType := [OptType.ce, OptType.pe].filter (· ∈ call.event.legs)

/-- Keep the last order id of every leg that has one. -/
def rememberOrders (results : OptType → LegResult) (state : BridgeState) : BridgeState :=
  { state with
    orderIds := fun key optType =>
      if key = (call.clientId, call.bindingId, call.event.underlying) ∧ optType ∈ call.legs then
        (results optType).orderId.or (state.orderIds key optType)
      else state.orderIds key optType }

def closeSide : OrderSide → OrderSide
  | .sell => .buy
  | .buy => .sell

/-- The market order that flattens a filled leg of an aborted ENTRY. -/
def flattenRequest (symbol : String) (qty : Int) : OrderRequest where
  brokerSymbol := symbol
  exchange := call.exchange
  side := closeSide call.side
  qty := qty
  orderType := .market
  product := call.product
  tag := ("SS_" ++ call.event.underlying ++ "_ABORT").take 20 |>.toString
  clientId := call.clientId

/-- The market order that flattens a residual position. -/
def reconcileRequest (symbol : String) (qty : Int) : OrderRequest where
  brokerSymbol := symbol
  exchange := call.exchange
  side := if 0 < qty then .sell else .buy
  qty := qty.natAbs
  orderType := .market
  product := call.product
  tag := ("SS_" ++ call.event.underlying ++ "_RECON").take 20 |>.toString
  clientId := call.clientId

/-- `_reconcile_flat`: cancel the known orders, then flatten what the broker still
holds in the symbols. No answer is a failed `get_positions`. -/
def reconcileFlat (state : BridgeState) (symbols : List String)
    (positions : Option (List (String × Int))) : List Effect :=
  let wanted := symbols.map String.toUpper
  if wanted = [] then []
  else
    let known := [OptType.ce, OptType.pe].filterMap
      (state.orderIds (call.clientId, call.bindingId, call.event.underlying))
    let residual := (positions.getD []).filter
      (fun p => decide (p.1.toUpper ∈ wanted) && decide (p.2 ≠ 0))
    known.map .cancel ++
      residual.map (fun p => .reconcile (reconcileRequest call p.1.toUpper p.2))

/-- The event that tells the book to discard its position. -/
def abortFill : StraddleFillEvent where
  action := .entry
  underlying := call.event.underlying
  atm := call.event.atm
  ceStrike := call.event.ceStrike
  peStrike := call.event.peStrike
  ceFill := 0
  peFill := 0
  clientId := call.clientId
  bindingId := call.bindingId
  eventId := call.event.eventId
  paperMode := call.paper
  legs := call.event.legs
  entryAborted := true

/-- The normal fill event. A leg that was not worked shows its signal price. -/
def normalFill (results : OptType → LegResult) : StraddleFillEvent where
  action := call.event.action
  underlying := call.event.underlying
  atm := call.event.atm
  ceStrike := call.event.ceStrike
  peStrike := call.event.peStrike
  ceFill := if OptType.ce ∈ call.legs then (results .ce).price else call.event.ceLtp
  peFill := if OptType.pe ∈ call.legs then (results .pe).price else call.event.peLtp
  clientId := call.clientId
  bindingId := call.bindingId
  eventId := call.event.eventId
  paperMode := call.paper
  legs := call.event.legs
  ceSymbol := if OptType.ce ∈ call.legs then (results .ce).symbol else some ""
  peSymbol := if OptType.pe ∈ call.legs then (results .pe).symbol else some ""

/-- The atomicity guard: something filled, but not every leg in full. -/
def asymmetric (results : OptType → LegResult) : Bool :=
  let full := call.legs.filter (fun ot => decide (call.qty ≤ (results ot).filledQty))
  call.legs.any (fun ot => decide (0 < (results ot).filledQty)) &&
    decide (full.length < call.legs.length)

/-- Flatten whatever filled. A leg without a symbol is skipped. -/
def flattenFilled (results : OptType → LegResult) : List Effect :=
  call.legs.filterMap (fun ot =>
    match usable (results ot).symbol with
    | none => none
    | some symbol =>
        if 0 < (results ot).filledQty then
          some (.flatten (flattenRequest call symbol (results ot).filledQty))
        else none)

/-- The entry prices of an EXIT: those carried by the event, or the last ENTRY's. -/
def exitEntryPrice (carried : Rat) (last : Option Rat) : Rat :=
  if carried ≠ 0 then carried else last.getD 0

/-- The end of a normal fill: remember an ENTRY and log either action. -/
def book (state : BridgeState) (fill : StraddleFillEvent) : LiveOutcome :=
  match call.event.action with
  | .entry =>
      { state :=
          { state with
            lastEntry := fun underlying =>
              if underlying = call.event.underlying then some call.event
              else state.lastEntry underlying }
        effects := [.logEntry fill]
        published := fill }
  | .exit =>
      let last := state.lastEntry call.event.underlying
      { state := state
        effects :=
          [.logExit fill (exitEntryPrice call.event.ceEntry (last.map (·.ceLtp)))
            (exitEntryPrice call.event.peEntry (last.map (·.peLtp)))]
        published := fill }

/-- `_live_fill`. -/
def liveFill (state : BridgeState) (inputs : OptType → LegInputs)
    (positions : Option (List (String × Int))) : LiveOutcome :=
  let results := fun optType => doLeg call optType (inputs optType)
  let state := rememberOrders call results state
  if call.event.action = .entry ∧ call.paper = false ∧ asymmetric call results = true then
    let symbols := call.legs.filterMap (fun ot => usable (results ot).symbol)
    { state := state
      effects := flattenFilled call results ++ reconcileFlat call state symbols positions
      published := abortFill call }
  else book call state (normalFill call results)

end Call

end OptionChain.StraddleBridge
