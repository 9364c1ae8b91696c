import OptionChain.Broker
import OptionChain.Rounding

/-!
# The slippage-aware executor

`execute_leg` climbs a ladder of IOC limit orders from the mid to the touch and
sends a MARKET order for what is left. After each order it reads the fill twice:
once by polling until a deadline and once more by a last status fetch, and books
what these reads say.

Everything the broker does is an input. `Venue` answers the n-th quote request
and the n-th order; an answered order brings the quantity it really fills and
every status answer the call will see. A call left by an exception is the `error`
of `Except`, with the progress made up to it.
-/

namespace OptionChain.SmartExecutor

open Broker Rounding

/-- An accepted order: its real outcome, the answers of the polls made before the
deadline, and the answer of the last fetch. -/
structure OrderScript where
  oid : String
  filled : Int
  avgPrice : Rat
  status : OrderStatus
  polls : List (Option OrderFill)
  fetch : Option OrderFill
deriving DecidableEq

/-- A broker seen from one call. -/
structure Venue where
  quote : Nat → Option (Rat × Rat)
  place : Nat → OrderRequest → Option OrderScript

/-- One call of `place_order`. -/
structure Attempt where
  request : OrderRequest
  answer : Option OrderScript
deriving DecidableEq

/-- The local variables of a call, and every order it attempted. -/
structure Progress where
  attempts : List Attempt
  orderIds : List String
  filledQty : Int
  notional : Rat
deriving DecidableEq

def Progress.empty : Progress := ⟨[], [], 0, 0⟩

/-- `_round_tick`. -/
def roundTick (price tick : Rat) : Rat :=
  if 0 < tick then roundTo 8 ((roundHalfEven (price / tick) : Rat) * tick) else roundTo 2 price

/-- `_await_fill` from its `last` answer on. The source starts from the string
"unknown", which no comparison recognises. -/
def awaitFrom (last : OrderFill) : List (Option OrderFill) → OrderFill
  | [] => { last with qty := if last.status = .complete then last.qty else 0 }
  | none :: rest => awaitFrom last rest
  | some f :: rest =>
      if f.status = .complete ∧ 0 < f.avgPrice then f
      else if f.status = .cancelled ∨ f.status = .rejected then ⟨0, 0, f.status⟩
      else awaitFrom f rest

/-- `_await_fill`. -/
def awaitFill (polls : List (Option OrderFill)) : OrderFill :=
  awaitFrom ⟨0, 0, .unknown⟩ polls

/-- The fill booked for an IOC order: the last fetch, or the polled result when
the fetch has nothing. -/
def readIoc (script : OrderScript) : Int × Rat :=
  let polled := awaitFill script.polls
  let fetched : Int × Rat :=
    match script.fetch with
    | some f => (f.qty, f.avgPrice)
    | none => (0, 0)
  if fetched.1 ≤ 0 ∧ 0 < polled.qty then (polled.qty, polled.avgPrice) else fetched

/-- The fill booked for a MARKET order: the polled result, or else a last-resort
fetch whose exception leaves the call. -/
def readMarket (script : OrderScript) : Option (Int × Rat) :=
  let polled := awaitFill script.polls
  if polled.qty ≤ 0 ∨ polled.avgPrice ≤ 0 then script.fetch.map (fun f => (f.qty, f.avgPrice))
  else some (polled.qty, polled.avgPrice)

/-- `filled_qty += q; notional += avg * q` for a fill with a price. -/
def Progress.book (progress : Progress) (read : Int × Rat) : Progress :=
  if 0 < read.1 ∧ 0 < read.2 then
    { progress with
      filledQty := progress.filledQty + read.1
      notional := progress.notional + read.2 * read.1 }
  else progress

/-- Note an order that `place_order` accepted or refused. -/
def Progress.attempt (progress : Progress) (request : OrderRequest)
    (answer : Option OrderScript) : Progress :=
  { progress with
    attempts := progress.attempts ++ [⟨request, answer⟩]
    orderIds := progress.orderIds ++ (answer.map OrderScript.oid).toList }

section Call

variable (venue : Venue) (leg : LegOrder) (chases : Nat)

def marketRequest (remaining : Int) : OrderRequest where
  brokerSymbol := leg.brokerSymbol
  exchange := leg.exchange
  side := leg.side
  qty := remaining
  orderType := .market
  product := leg.product
  tag := leg.tag
  clientId := leg.clientId

def limitRequest (remaining : Int) (price : Rat) : OrderRequest where
  brokerSymbol := leg.brokerSymbol
  exchange := leg.exchange
  side := leg.side
  qty := remaining
  orderType := .limit
  price := price
  product := leg.product
  tag := leg.tag
  clientId := leg.clientId
  timeInForce := "ioc"

/-- `_market`. -/
def market (progress : Progress) : Except Progress Progress :=
  let request := marketRequest leg (leg.qty - progress.filledQty)
  let answer := venue.place progress.attempts.length request
  let placed := progress.attempt request answer
  match answer with
  | none => .error placed
  | some script =>
      match readMarket script with
      | none => .error placed
      | some read => .ok (placed.book read)

/-- The price of a rung: from the mid towards the touch in equal steps. -/
def rungPrice (attempt : Nat) (bid ask : Rat) : Rat :=
  let mid := (bid + ask) / 2
  let touch := if leg.side = .sell then bid else ask
  let frac : Rat := (attempt : Rat) / (max chases 1 : Nat)
  roundTick (mid + (touch - mid) * frac) leg.tick

/-- The price at which a rung sends its order. None is a `break`: a bad or
missing quote, or a price that rounds to nothing. -/
def rungQuote (attempt : Nat) : Option Rat :=
  match venue.quote attempt with
  | none => none
  | some (bid, ask) =>
      if 0 < bid ∧ 0 < ask then
        let price := rungPrice leg chases attempt bid ask
        if price ≤ 0 then none else some price
      else none

/-- `for attempt in range(self._chases + 1)`, over the attempts still to come. -/
def climb : List Nat → Progress → Except Progress Progress
  | [], progress => .ok progress
  | attempt :: later, progress =>
      if leg.qty - progress.filledQty ≤ 0 then .ok progress
      else
        match rungQuote venue leg chases attempt with
        | none => .ok progress
        | some price =>
            let request := limitRequest leg (leg.qty - progress.filledQty) price
            let answer := venue.place progress.attempts.length request
            let placed := progress.attempt request answer
            match answer with
            | none => .error placed
            | some script =>
                let booked := placed.book (readIoc script)
                if leg.qty ≤ booked.filledQty then .ok booked else climb later booked

/-- The orders of a call: one MARKET order, or the ladder and a MARKET order for
the remainder. -/
def orders : Except Progress Progress :=
  if leg.useLimit then
    match climb venue leg chases (List.range (chases + 1)) .empty with
    | .error raised => .error raised
    | .ok climbed => if climbed.filledQty < leg.qty then market venue leg climbed else .ok climbed
  else market venue leg .empty

/-- The leg fill built from the final locals. -/
def legFill (progress : Progress) : LegFill where
  filledQty := progress.filledQty
  avgPrice := roundTo 8
    (if progress.filledQty = 0 then 0 else progress.notional / progress.filledQty)
  orderIds := progress.orderIds
  completed := decide (leg.qty ≤ progress.filledQty)

/-- `execute_leg`: the orders attempted, and the leg fill unless it raised. -/
def executeLeg : List Attempt × Option LegFill :=
  match orders venue leg chases with
  | .error raised => (raised.attempts, none)
  | .ok progress => (progress.attempts, some (legFill leg progress))

end Call

@[simp] theorem book_attempts (progress : Progress) (read : Int × Rat) :
    (progress.book read).attempts = progress.attempts := by
  unfold Progress.book
  split <;> rfl

@[simp] theorem attempt_attempts (progress : Progress) (request : OrderRequest)
    (answer : Option OrderScript) :
    (progress.attempt request answer).attempts = progress.attempts ++ [⟨request, answer⟩] := rfl

end OptionChain.SmartExecutor
