import OptionChain.Tasks
import OptionChain.TrapPosition

/-!
# The entry of a trap book

`_on_entry_signal` checks its gates, consumes the zone and then awaits: the
spread of the primary strike and perhaps of the at-the-money strike, the broker
login, and for up to three candidate strikes the placement, at most six status
answers and the sleeps between them. The position is recorded after the last of
these awaits. Any number of entries may be suspended at once.

The awaited answers are inputs of the suspended tasks. The broker keeps its own
book of the requests that were sent to it and fills them when it pleases, whether
or not an entry still looks at them. Log lines, telemetry texts and the strike
pinning of the feed are left out.
-/

namespace OptionChain.TrapEntry

open Broker Rounding TrapPosition

/-- What an entry reads from the settings of its book. Times of day are counted
from midnight in one unit. -/
structure Setup where
  und : String
  exchange : String
  clientId : String
  htfSource : HtfSource
  lotSize : Nat
  lotMul : Nat
  step : Nat
  slBuf : Rat
  maxSpreadPct : Rat
  cutoff : Nat
  entryWin : Option (Nat × Nat)
  stepPositive : 0 < step

/-- `total_qty = self._lot_size * self._lot_mul`. -/
def Setup.totalQty (setup : Setup) : Nat := setup.lotSize * setup.lotMul

/-- The caches that other handlers refresh. `ceT1` and `peT1` are what
`_compute_option_t1` reads off the option bars of the moment. -/
structure Market where
  spotCache : Rat
  spotOpen : Rat
  expiry : String
  ce1Strike : Option Int
  ce2Strike : Option Int
  pe1Strike : Option Int
  pe2Strike : Option Int
  ce1Ltp : Rat
  pe1Ltp : Rat
  ceT1 : Rat
  peT1 : Rat
deriving DecidableEq

/-- The fields of the low-timeframe entry that are read. -/
structure LtfEntry where
  zoneHigh : Rat
  zoneLow : Rat
deriving DecidableEq

/-- The arguments of `_on_entry_signal`, the time and the answer of `_can_trade`. -/
structure Signal where
  leg : Leg
  optType : OptType
  entry : LtfEntry
  htfZone : HtfZone
  now : Nat
  canTrade : Bool

/-- A request in the broker's book and the quantity bought on it so far. -/
structure BuyOrder where
  request : OrderRequest
  bought : Nat
deriving DecidableEq

/-- The fields of the book that entries share, and the broker's book. -/
structure Engine where
  noMarginToday : Bool
  position : Option Position
  notifiedUids : List ZoneUid
  market : Market
  orders : List BuyOrder
deriving DecidableEq

/-- `_round_strike`. -/
def roundStrike (price : Rat) (step : Nat) : Int := roundHalfEven (price / step) * step

/-- `scan_strike_map.get(leg) or 0`. -/
def scanStrike (market : Market) (leg : Leg) (optType : OptType) : Int :=
  match leg, optType with
  | .ce1, _ | .fut, .ce => market.ce1Strike.getD 0
  | .ce2, _ => market.ce2Strike.getD 0
  | .pe1, _ | .fut, .pe => market.pe1Strike.getD 0
  | .pe2, _ => market.pe2Strike.getD 0

/-- `self._spot_cache or self._spot_open`. -/
def spotPrice (market : Market) : Rat :=
  if market.spotCache = 0 then market.spotOpen else market.spotCache

/-- The locals an entry carries over its first await. -/
structure Locals where
  leg : Leg
  optType : OptType
  entry : LtfEntry
  htfZone : HtfZone
  scanStrike : Int
  spot : Rat
  atm : Int
deriving DecidableEq

/-- The locals once a strike is picked. -/
structure Plan extends Locals where
  strike : Int
  slPrice : Rat
  t1Price : Rat
deriving DecidableEq

/-- One candidate order: its strike, the candidates left after it, and its place
in the broker's book. -/
structure Attempt where
  plan : Plan
  strike : Int
  rest : List Int
  order : Nat
deriving DecidableEq

/-- Where an entry is suspended. A status is asked for the `poll`-th time, or
its non-terminal answer is being slept on. -/
inductive Task where
  | primarySpread (locals : Locals)
  | atmSpread (locals : Locals)
  | login (plan : Plan)
  | placing (attempt : Attempt)
  | status (attempt : Attempt) (orderId : String) (poll : Nat)
  | sleeping (attempt : Attempt) (orderId : String) (poll : Nat) (fill : OrderFill)
deriving DecidableEq

inductive Answer where
  | spread (percent : Rat)
  | broker (ready : Bool)
  | placed (orderId : String)
  | fill (fill : OrderFill)
  | elapsed
  | raised
deriving DecidableEq

/-- What may start: an entry, a refresh of the caches by another handler, or a
fill of the broker. -/
inductive Handler where
  | signal (signal : Signal)
  | refresh (market : Market)
  | trade (order qty : Nat)

section Entry

variable (setup : Setup)

/-- The gates before the zone is consumed, in the order of the source. -/
def gatesOpen (engine : Engine) (signal : Signal) : Bool :=
  !engine.noMarginToday && engine.position.isNone && signal.canTrade &&
    decide (signal.now < setup.cutoff) &&
    (match setup.entryWin with
      | none => true
      | some (first, last) => decide (first ≤ signal.now ∧ signal.now ≤ last)) &&
    decide (zoneUid signal.htfZone ∉ engine.notifiedUids)

def signalLocals (engine : Engine) (signal : Signal) : Locals where
  leg := signal.leg
  optType := signal.optType
  entry := signal.entry
  htfZone := signal.htfZone
  scanStrike := scanStrike engine.market signal.leg signal.optType
  spot := spotPrice engine.market
  atm := roundStrike (spotPrice engine.market) setup.step

/-- `_on_entry_signal` up to its first await. -/
def onEntrySignal (engine : Engine) (signal : Signal) : Engine × Option Task :=
  if gatesOpen setup engine signal then
    ({ engine with notifiedUids := zoneUid signal.htfZone :: engine.notifiedUids },
      some (.primarySpread (signalLocals setup engine signal)))
  else (engine, none)

/-- The strike whose spread is checked first. -/
def primaryStrike (locals : Locals) : Int :=
  match setup.htfSource, locals.optType with
  | .futures, _ => locals.scanStrike
  | _, .ce => locals.atm - setup.step
  | _, .pe => locals.atm + setup.step

/-- `sp == 0.0 or sp <= max_spread_pct`. -/
def liquid (percent : Rat) : Bool := decide (percent = 0 ∨ percent ≤ setup.maxSpreadPct)

/-- Stop and target, computed when `_pick_liquid_strike` has returned. -/
def makePlan (market : Market) (locals : Locals) (strike : Int) : Plan :=
  { locals with
    strike := strike
    slPrice :=
      match setup.htfSource, locals.optType with
      | .futures, .pe => roundTo 2 (locals.entry.zoneHigh + setup.slBuf)
      | _, _ => roundTo 2 (locals.entry.zoneLow - setup.slBuf)
    t1Price :=
      match setup.htfSource, locals.optType with
      | .futures, .ce => market.ceT1
      | .futures, .pe => market.peT1
      | _, _ => roundTo 2 locals.htfZone.sl }

/-- The candidates after the picked strike: at the money, one out of the money. -/
def laterCandidates (plan : Plan) : List Int :=
  [plan.atm,
    match plan.optType with
    | .ce => plan.atm + setup.step
    | .pe => plan.atm - setup.step]

def buyRequest (market : Market) (plan : Plan) (strike : Int) : OrderRequest where
  brokerSymbol := buildBrokerSymbol setup.und market.expiry strike plan.optType
  exchange := setup.exchange
  side := .buy
  qty := setup.totalQty
  orderType := .market
  price :=
    match plan.optType with
    | .ce => market.ce1Ltp
    | .pe => market.pe1Ltp
  tag := "TRAP_" ++ setup.und ++ "_" ++ optTypeText plan.optType
  clientId := setup.clientId

/-- Send the order of a candidate and wait for `place_order`. -/
def place (engine : Engine) (plan : Plan) (strike : Int) (rest : List Int) :
    Engine × Option Task :=
  ({ engine with
      orders := engine.orders ++ [⟨buyRequest setup engine.market plan strike, 0⟩] },
    some (.placing ⟨plan, strike, rest, engine.orders.length⟩))

/-- The position an entry records after its fill. -/
def makePosition (attempt : Attempt) (orderId : String) (fill : OrderFill) : Position where
  leg :=
    match setup.htfSource with
    | .futures => .fut
    | _ => attempt.plan.leg
  optType := attempt.plan.optType
  strike := attempt.strike
  spotAtEntry := roundTo 2 attempt.plan.spot
  entryPrice := roundTo 2 fill.avgPrice
  slPrice := attempt.plan.slPrice
  trailSl := attempt.plan.slPrice
  t1Price := attempt.plan.t1Price
  totalQty := setup.totalQty
  t1Qty := (setup.totalQty : Int) / 2
  remainingQty := setup.totalQty
  orderIdEntry := orderId
  htfZone := attempt.plan.htfZone
  counted := Int.natCast_nonneg _
  halved := rfl
  balanced := rfl

/-- `fill.status == COMPLETE and fill.avg_price > 0`. -/
def filled (fill : OrderFill) : Bool := decide (fill.status = .complete ∧ 0 < fill.avgPrice)

/-- A status that ends the polling. -/
def terminal (fill : OrderFill) : Bool :=
  decide (fill.status = .complete ∨ fill.status = .cancelled)

/-- What follows `_place_and_fill`: record the position, order the next candidate,
or give up for the day. -/
def settle (engine : Engine) (attempt : Attempt) (orderId : String) (fill : OrderFill) :
    Engine × Option Task :=
  if filled fill then
    ({ engine with position := some (makePosition setup attempt orderId fill) }, none)
  else
    match attempt.rest with
    | next :: rest => place setup engine attempt.plan next rest
    | [] => ({ engine with noMarginToday := true }, none)

/-- A suspended entry with its answer, up to the next await. An answer to another
kind of call is no event of the task. -/
def resumeEntry (engine : Engine) (task : Task) (answer : Answer) : Engine × Option Task :=
  match task, answer with
  | .primarySpread locals, .spread percent =>
      if liquid setup percent then
        (engine, some (.login (makePlan setup engine.market locals (primaryStrike setup locals))))
      else (engine, some (.atmSpread locals))
  | .atmSpread locals, .spread percent =>
      let strike := if liquid setup percent then locals.atm else primaryStrike setup locals
      (engine, some (.login (makePlan setup engine.market locals strike)))
  | .login plan, .broker ready =>
      if ready then place setup engine plan plan.strike (laterCandidates setup plan)
      else (engine, none)
  | .placing attempt, .placed orderId => (engine, some (.status attempt orderId 0))
  | .placing _, .raised => (engine, none)
  | .status attempt orderId poll, .fill fill =>
      if terminal fill then settle setup engine attempt orderId fill
      else (engine, some (.sleeping attempt orderId poll fill))
  | .status _ _ _, .raised => (engine, none)
  | .sleeping attempt orderId poll fill, .elapsed =>
      if poll + 1 < 6 then (engine, some (.status attempt orderId (poll + 1)))
      else settle setup engine attempt orderId fill
  | task, _ => (engine, some task)

/-- The broker buys some more on a request, never more than was asked for. -/
def BuyOrder.trade (qty : Nat) (order : BuyOrder) : BuyOrder :=
  if ((order.bought + qty : Nat) : Int) ≤ order.request.qty then
    { order with bought := order.bought + qty }
  else order

def startHandler (engine : Engine) : Handler → Engine × Option Task
  | .signal signal => onEntrySignal setup engine signal
  | .refresh market => ({ engine with market := market }, none)
  | .trade order qty =>
      ({ engine with orders := engine.orders.modify order (BuyOrder.trade qty) }, none)

/-- Entries as tasks of the event loop. -/
def entries : Tasks.Program Engine Handler Task Answer where
  start := startHandler setup
  resume := resumeEntry setup

end Entry

/-- Everything the entries of a book have bought. -/
def bought (engine : Engine) : Nat := (engine.orders.map BuyOrder.bought).sum

/-- The request whose result an entry still waits for. -/
def Task.order : Task → Option Nat
  | .placing attempt | .status attempt _ _ | .sleeping attempt _ _ _ => some attempt.order
  | _ => none

/-- How an answer ends the wait for a request: taken as filled, given up, or not
at all. -/
def Task.verdict : Task → Answer → Option Bool
  | .placing _, .raised | .status _ _ _, .raised => some false
  | .status _ _ _, .fill fill => if terminal fill then some (filled fill) else none
  | .sleeping _ _ poll fill, .elapsed => if poll + 1 < 6 then none else some (filled fill)
  | _, _ => none

end OptionChain.TrapEntry
