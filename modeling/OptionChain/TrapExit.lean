import OptionChain.Tasks
import OptionChain.TrapPosition

/-!
# The exits of a trap book

Three loops look after one open position: option ticks, index ticks and the end
of the day. Each of them may sell half of it at T1 or all that remains, and each
sale awaits the broker login and the placement in `_place_exit`. The handlers
keep a reference to the position dictionary over these awaits, while another one
may clear the book in the meantime, so the dictionary and the fact that the book
still holds it are two fields here.

`_update_trail_sl` and `_update_futures_tsl` only move the stop; where they move
it is an input. So is the last price of the end of the day. The re-entry watch is
written here and read by no handler of an open position.
-/

namespace OptionChain.TrapExit

open Broker Rounding TrapPosition

/-- What the exits read from the settings of the book. -/
structure Setup where
  und : String
  expiry : String
  exchange : String
  clientId : String
  htfSource : HtfSource
  noTargetTsl : Bool
  profitFloor : Rat

inductive ExitReason where
  | t1
  | floorSl
  | trailSl
  | sl
  | eod
deriving DecidableEq

def reasonText : ExitReason → String
  | .t1 => "T1"
  | .floorSl => "FLOOR_SL"
  | .trailSl => "TRAIL_SL"
  | .sl => "SL"
  | .eod => "EOD"

/-- What `_update_trail_sl` does with a tick. -/
inductive Trail where
  | kept
  | moved (trailSl : Rat)
  | raised
deriving DecidableEq

structure Tick where
  ltp : Rat
  trail : Trail
deriving DecidableEq

/-- An option tick and the legs that it matches. -/
structure OptionTick extends Tick where
  isCe1 : Bool
  isCe2 : Bool
  isPe1 : Bool
  isPe2 : Bool

/-- What a handler does once `_place_exit` has returned. -/
inductive After where
  | optionT1
  | tickT1 (tick : Tick)
  | close
deriving DecidableEq

/-- The arguments of one `_place_exit` and the price its caller records. -/
structure Exit where
  qty : Int
  price : Rat
  reason : ExitReason
  ltp : Rat
  after : After
deriving DecidableEq

/-- Where `_place_exit` is suspended. -/
inductive Task where
  | login (exit : Exit)
  | placing (exit : Exit) (request : OrderRequest)
deriving DecidableEq

inductive Answer where
  | broker (ready : Bool)
  | placed (orderId : String)
  | raised
deriving DecidableEq

structure SweepWatch where
  optType : OptType
  leg : Leg
  slLevel : Rat
  entryZone : HtfZone
  qty : Int
  candlesLeft : Nat
  origEntry : Rat
deriving DecidableEq

/-- The figures of one closed-trade record. -/
structure ClosedTrade where
  entryPrice : Rat
  exitPrice : Rat
  exitReason : ExitReason
  qty : Int
  pnl : Rat
deriving DecidableEq

/-- The position dictionary, whether the book still holds it, what the exits
write, and the SELL orders the broker accepted. -/
structure Engine where
  pos : Position
  isOpen : Bool
  sweepWatch : Option SweepWatch
  trades : List ClosedTrade
  accepted : List OrderRequest
deriving DecidableEq

inductive Handler where
  | optionTick (tick : OptionTick)
  | indexTick (tick : Tick)
  | stop (trailSl : Rat)
  | endOfDay (eodLtp : Rat)

/-- `_record_closed_trade`. An override of zero is no override. -/
def closedTrade (pos : Position) (exitPrice : Rat) (reason : ExitReason) (qtyOverride : Int) :
    ClosedTrade :=
  let qty := if qtyOverride = 0 then pos.remainingQty else qtyOverride
  ⟨pos.entryPrice, exitPrice, reason, qty, roundTo 2 ((exitPrice - pos.entryPrice) * qty)⟩

/-- The request of an exit, for the strike and side of the recorded position. -/
def sellRequest (setup : Setup) (pos : Position) (exit : Exit) : OrderRequest where
  brokerSymbol := buildBrokerSymbol setup.und setup.expiry pos.strike pos.optType
  exchange := setup.exchange
  side := .sell
  qty := exit.qty
  orderType := .market
  price := exit.price
  tag := "TRAP_EXIT_" ++ reasonText exit.reason
  clientId := setup.clientId

/-- The watch after a plain stop. -/
def watchFor (pos : Position) (exit : Exit) : SweepWatch where
  optType := pos.optType
  leg := pos.leg
  slLevel := exit.price
  entryZone := pos.htfZone
  qty := exit.qty
  candlesLeft := 2
  origEntry := pos.entryPrice

/-- A full exit after its `_place_exit`, whatever that returned: record, perhaps
watch for a sweep, and clear the position. -/
def closeOut (engine : Engine) (exit : Exit) : Engine :=
  { engine with
    isOpen := false
    trades := engine.trades ++ [closedTrade engine.pos exit.ltp exit.reason 0]
    sweepWatch :=
      if (exit.reason = .sl ∨ exit.reason = .trailSl) ∧ engine.pos.t1Hit = false then
        some (watchFor engine.pos exit)
      else engine.sweepWatch }

/-- `if qty <= 0 or not self._position: return None`. -/
def returnsAtOnce (engine : Engine) (exit : Exit) : Bool :=
  decide (exit.qty ≤ 0) || !engine.isOpen

/-- A full exit up to its first await. -/
def beginClose (engine : Engine) (exit : Exit) : Engine × Option Task :=
  if returnsAtOnce engine exit then (closeOut engine exit, none)
  else (engine, some (.login exit))

section Exits

variable (setup : Setup)

/-- The profit that the floor is compared with. -/
def floorPnl (pos : Position) (ltp : Rat) : Rat :=
  if setup.noTargetTsl then (ltp - pos.entryPrice) * pos.totalQty
  else pos.t1RealisedPnl +
    if 0 < pos.remainingQty then (ltp - pos.entryPrice) * pos.remainingQty else 0

/-- The floor is watched from the start without targets, else after T1. -/
def floorWatched (pos : Position) : Bool :=
  decide (0 < setup.profitFloor) && (setup.noTargetTsl || pos.t1Hit)

def lockFloor (pos : Position) (ltp : Rat) : Position :=
  if floorWatched setup pos && !pos.floorLocked &&
      decide (setup.profitFloor ≤ floorPnl setup pos ltp) then
    { pos with floorLocked := true }
  else pos

def floorBroken (pos : Position) (ltp : Rat) : Bool :=
  floorWatched setup pos && pos.floorLocked && decide (floorPnl setup pos ltp < setup.profitFloor)

def activeSl (pos : Position) : Rat :=
  if setup.noTargetTsl then pos.slPrice
  else if pos.t1Hit then pos.trailSl else pos.slPrice

/-- A futures-mode put is stopped from above. -/
def slHit (pos : Position) (ltp : Rat) : Bool :=
  if setup.htfSource = .futures ∧ pos.optType = .pe then decide (activeSl setup pos ≤ ltp)
  else decide (ltp ≤ activeSl setup pos)

/-- The floor and the stop, after the trail. -/
def checkStops (engine : Engine) (ltp : Rat) : Engine × Option Task :=
  let pos := lockFloor setup engine.pos ltp
  let engine := { engine with pos := pos }
  if floorBroken setup pos ltp then
    beginClose engine ⟨pos.remainingQty, ltp, .floorSl, ltp, .close⟩
  else if slHit setup pos ltp then
    beginClose engine ⟨pos.remainingQty, activeSl setup pos,
      if pos.t1Hit then .trailSl else .sl, ltp, .close⟩
  else (engine, none)

/-- `_check_tick_exit` after its T1 part. An exception of the trail ends the
handler. -/
def settleTick (engine : Engine) (tick : Tick) : Engine × Option Task :=
  if !setup.noTargetTsl && engine.pos.t1Hit then
    match tick.trail with
    | .kept => checkStops setup engine tick.ltp
    | .moved trailSl =>
        checkStops setup { engine with pos := { engine.pos with trailSl := trailSl } } tick.ltp
    | .raised => (engine, none)
  else checkStops setup engine tick.ltp

/-- A half exit keeps the order id of its `_place_exit`, if any, and is recorded. -/
def recordHalf (engine : Engine) (exit : Exit) (orderId : Option String) : Engine :=
  { engine with
    pos := { engine.pos with orderIdT1 := orderId }
    trades := engine.trades ++ [closedTrade engine.pos exit.ltp .t1 engine.pos.t1Qty] }

/-- A half exit after its `_place_exit`, whatever that returned. -/
def halfDone (engine : Engine) (exit : Exit) (orderId : Option String) : Engine × Option Task :=
  match exit.after with
  | .tickT1 tick => settleTick setup (recordHalf engine exit orderId) tick
  | .optionT1 | .close => (recordHalf engine exit orderId, none)

/-- A half exit up to its first await. -/
def beginHalf (engine : Engine) (exit : Exit) : Engine × Option Task :=
  if returnsAtOnce engine exit then halfDone setup engine exit none
  else (engine, some (.login exit))

/-- `_check_option_t1` on an open position. -/
def checkOptionT1 (engine : Engine) (optLtp : Rat) : Engine × Option Task :=
  if whole : engine.pos.t1Hit = false then
    if engine.pos.t1Price ≠ 0 ∧ engine.pos.t1Price ≤ optLtp then
      beginHalf setup { engine with pos := engine.pos.takeT1 whole }
        ⟨engine.pos.t1Qty, engine.pos.t1Price, .t1, optLtp, .optionT1⟩
    else (engine, none)
  else (engine, none)

/-- `_check_tick_exit` on an open position. -/
def checkTickExit (engine : Engine) (tick : Tick) : Engine × Option Task :=
  if whole : engine.pos.t1Hit = false then
    if setup.noTargetTsl = false ∧ engine.pos.t1Price ≤ tick.ltp ∧ setup.htfSource ≠ .futures then
      let realised := (tick.ltp - engine.pos.entryPrice) * engine.pos.t1Qty
      beginHalf setup
        { engine with pos := { engine.pos.takeT1 whole with t1RealisedPnl := realised } }
        ⟨engine.pos.t1Qty, engine.pos.t1Price, .t1, tick.ltp, .tickT1 tick⟩
    else settleTick setup engine tick
  else settleTick setup engine tick

/-- The legs of `_opt_tick_loop`; no option tick matches the future. -/
def OptionTick.tracks (tick : OptionTick) : Leg → Bool
  | .ce1 => tick.isCe1
  | .ce2 => tick.isCe2
  | .pe1 => tick.isPe1
  | .pe2 => tick.isPe2
  | .fut => false

/-- The near leg of the side of the position. -/
def OptionTick.nearLeg (tick : OptionTick) : OptType → Bool
  | .ce => tick.isCe1
  | .pe => tick.isPe1

/-- The position part of `_opt_tick_loop`. -/
def optTick (engine : Engine) (tick : OptionTick) : Engine × Option Task :=
  if engine.isOpen then
    if tick.tracks engine.pos.leg then checkTickExit setup engine tick.toTick
    else if setup.htfSource = .futures ∧ engine.pos.leg = .fut ∧ engine.pos.t1Hit = false ∧
        0 < engine.pos.t1Price ∧ tick.nearLeg engine.pos.optType then
      checkOptionT1 setup engine tick.ltp
    else (engine, none)
  else (engine, none)

/-- The position part of `_idx_tick_loop`. -/
def idxTick (engine : Engine) (tick : Tick) : Engine × Option Task :=
  if setup.htfSource = .futures ∧ engine.isOpen ∧ engine.pos.leg = .fut then
    checkTickExit setup engine tick
  else (engine, none)

/-- `_update_futures_tsl`: only an open position before T1 has its stop moved. -/
def moveStop (engine : Engine) (trailSl : Rat) : Engine :=
  if engine.isOpen ∧ engine.pos.t1Hit = false then
    { engine with pos := { engine.pos with trailSl := trailSl } }
  else engine

/-- `_eod_square_off`. -/
def eodSquareOff (engine : Engine) (eodLtp : Rat) : Engine × Option Task :=
  if engine.isOpen ∧ 0 < engine.pos.remainingQty then
    beginClose engine ⟨engine.pos.remainingQty, 0, .eod, eodLtp, .close⟩
  else ({ engine with isOpen := false }, none)

def startHandler (engine : Engine) : Handler → Engine × Option Task
  | .optionTick tick => optTick setup engine tick
  | .indexTick tick => idxTick setup engine tick
  | .stop trailSl => (moveStop engine trailSl, none)
  | .endOfDay eodLtp => eodSquareOff engine eodLtp

/-- The caller of `_place_exit` goes on, with an order id or without. -/
def returned (engine : Engine) (exit : Exit) (orderId : Option String) : Engine × Option Task :=
  match exit.after with
  | .close => (closeOut engine exit, none)
  | .optionT1 | .tickT1 _ => halfDone setup engine exit orderId

/-- `_place_exit` with the answer it waits for. With the position cleared during
the login, `pos["strike"]` raises and ends the handler. An answer to another kind
of call is no event of the task. -/
def resumeExit (engine : Engine) (task : Task) (answer : Answer) : Engine × Option Task :=
  match task, answer with
  | .login exit, .broker ready =>
      if ready then
        if engine.isOpen then
          (engine, some (.placing exit (sellRequest setup engine.pos exit)))
        else (engine, none)
      else returned setup engine exit none
  | .placing exit request, .placed orderId =>
      returned setup { engine with accepted := engine.accepted ++ [request] } exit (some orderId)
  | .placing exit _, .raised => returned setup engine exit none
  | task, _ => (engine, some task)

/-- Exits as tasks of the event loop. -/
def exits : Tasks.Program Engine Handler Task Answer where
  start := startHandler setup
  resume := resumeExit setup

end Exits

/-- The quantity of the accepted SELL orders. -/
def sold (engine : Engine) : Int := (engine.accepted.map OrderRequest.qty).sum

def Task.exit : Task → Exit
  | .login exit | .placing exit _ => exit

@[simp] theorem Task.exit_login (exit : Exit) : (Task.login exit).exit = exit := rfl

@[simp] theorem Task.exit_placing (exit : Exit) (request : OrderRequest) :
    (Task.placing exit request).exit = exit := rfl

/-- A sale of all that remains. -/
def Exit.full (exit : Exit) : Bool := decide (exit.after = .close)

end OptionChain.TrapExit
