import Mathlib.Algebra.BigOperators.Group.List.Basic
import OptionChain.IronCondor

/-!
# The iron condor bridge

What the bridge makes of an order event: the four market orders of a live broker,
and the history entry of a closed condor. An order names its contract where the
source names the broker's symbol for it; every contract has one here, and every
order is filled.
-/

namespace OptionChain.CondorBridge

open Broker Rounding CondorPosition IronCondor

structure Contract where
  expiry : Day
  strike : Int
  optType : OptType
deriving DecidableEq

structure LiveOrder where
  contract : Contract
  side : OrderSide
  qty : Int
deriving DecidableEq

/-- The first expiry of the registry that is not over, else today. -/
def nearestExpiry (clock : Clock) : Day :=
  (clock.expiries.find? (fun expiry => decide (clock.today ≤ expiry))).getD clock.today

/-- The expiry of an event, or the nearest one where it carries none. -/
def orderExpiry (clock : Clock) (event : ICOrderEvent) : Day :=
  event.expiry.getD (nearestExpiry clock)

/-- The legs of `_live_fill`: an entry sells the shorts and buys the hedges, every
other action buys the shorts and sells the hedges. -/
def liveLegs (event : ICOrderEvent) : List (Rat × OptType × OrderSide) :=
  if event.action = .entry then
    [(event.shortCeStrike, .ce, .sell), (event.shortPeStrike, .pe, .sell),
      (event.longCeStrike, .ce, .buy), (event.longPeStrike, .pe, .buy)]
  else
    [(event.shortCeStrike, .ce, .buy), (event.shortPeStrike, .pe, .buy),
      (event.longCeStrike, .ce, .sell), (event.longPeStrike, .pe, .sell)]

/-- The orders of `_live_fill`. -/
def liveFill (clock : Clock) (event : ICOrderEvent) : List LiveOrder :=
  (liveLegs event).map (fun leg =>
    ⟨⟨orderExpiry clock event, towardZero leg.1, leg.2.1⟩, leg.2.2,
      event.lotSize * event.lotMultiplier⟩)

/-- What an order adds to the holding of a contract. -/
def traded (contract : Contract) (order : LiveOrder) : Int :=
  if order.contract = contract then
    match order.side with
    | .buy => order.qty
    | .sell => -order.qty
  else 0

/-- The quantity held of a contract after some orders, negative where it is short. -/
def holding (orders : List LiveOrder) (contract : Contract) : Int :=
  (orders.map (traded contract)).sum

@[simp] theorem holding_nil (contract : Contract) : holding [] contract = 0 := rfl

@[simp] theorem holding_cons (order : LiveOrder) (orders : List LiveOrder)
    (contract : Contract) :
    holding (order :: orders) contract = traded contract order + holding orders contract := by
  simp [holding]

@[simp] theorem holding_append (first second : List LiveOrder) (contract : Contract) :
    holding (first ++ second) contract = holding first contract + holding second contract := by
  simp [holding]

/-- The entry that `_record_history` writes for a closed condor. -/
structure HistoryRecord where
  underlying : String
  entry : Rat
  exit : Rat
  reason : String
  pnlRs : Rat
deriving DecidableEq

/-- The credit at the prices of an order, as `_paper_fill` computes it. -/
def eventCredit (event : ICOrderEvent) : Rat :=
  (event.shortCeLtp + event.shortPeLtp) - (event.longCeLtp + event.longPeLtp)

/-- `_record_history`. -/
def recordHistory (event : ICOrderEvent) : Option HistoryRecord :=
  if event.action = .exit then
    some
      { underlying := event.underlying
        entry := eventCredit event
        exit := eventCredit event - event.cumulativePnl
        reason := if event.closeReason = "" then "exit" else event.closeReason
        pnlRs := event.cumulativePnl * event.lotSize * event.lotMultiplier }
  else none

end OptionChain.CondorBridge
