import OptionChain.Broker

/-!
# The events between a straddle book and the bridge

A book publishes order events, the bridge answers with fill events. Both are
plain records here. Trade-log payloads (indicators, open times, open reasons) and
timestamps are left out.
-/

namespace OptionChain.StraddleEvents

open Broker

inductive Action where
  | entry
  | exit
deriving DecidableEq

/-- The four patterns of event identifiers. -/
inductive EventKind where
  | entry
  | exit
  | exitLeg (side : OptType)
  | openLeg (side : OptType)
deriving DecidableEq

/-- `f"{underlying}_{kind}_{counter}"`. -/
structure EventId where
  underlying : String
  kind : EventKind
  counter : Nat
deriving DecidableEq

structure StraddleOrderEvent where
  action : Action
  underlying : String
  atm : Rat
  ceStrike : Rat
  peStrike : Rat
  ceLtp : Rat
  peLtp : Rat
  lotMultiplier : Int
  lotSize : Int
  spot : Rat
  closeReason : String := ""
  realizedPnl : Rat := 0
  ceEntry : Rat := 0
  peEntry : Rat := 0
  eventId : EventId
  legs : List OptType := [.ce, .pe]
  clientId : String := ""
  bindingId : String := ""
deriving DecidableEq

def StraddleOrderEvent.strike (ev : StraddleOrderEvent) : OptType → Rat
  | .ce => ev.ceStrike
  | .pe => ev.peStrike

def StraddleOrderEvent.ltp (ev : StraddleOrderEvent) : OptType → Rat
  | .ce => ev.ceLtp
  | .pe => ev.peLtp

structure StraddleFillEvent where
  action : Action
  underlying : String
  atm : Rat
  ceStrike : Rat
  peStrike : Rat
  ceFill : Rat
  peFill : Rat
  clientId : String
  bindingId : String
  eventId : EventId
  paperMode : Bool := true
  legs : List OptType := [.ce, .pe]
  ceSymbol : Option String := some ""
  peSymbol : Option String := some ""
  entryAborted : Bool := false
deriving DecidableEq

def StraddleFillEvent.fill (ev : StraddleFillEvent) : OptType → Rat
  | .ce => ev.ceFill
  | .pe => ev.peFill

def StraddleFillEvent.symbol (ev : StraddleFillEvent) : OptType → Option String
  | .ce => ev.ceSymbol
  | .pe => ev.peSymbol

end OptionChain.StraddleEvents
