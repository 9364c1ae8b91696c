import Mathlib.Data.Finset.Image
import Mathlib.Data.Finset.SDiff
import OptionChain.Rounding
import OptionChain.Runs

/-!
# The strike rebalancer

One underlying of `StrikeRebalancer`, and the calls that reach the feeder for it.
Strikes stand for their CE and PE tokens. Index ticks are handled one at a time,
but other tasks pin and unpin strikes while a tick waits for the feeder: a tick
comes with the calls made during each of its two waits. Where the code does not
wait, there are none.

The active set is one object. A call made during a wait changes the very set from
which the rebalance later takes its result.
-/

namespace OptionChain.StrikeRebalancer

open Runs

/-- `_UnderlyingState`. -/
structure UnderlyingState where
  openAtm : Option Rat := none
  currentAtm : Option Rat := none
  activeStrikes : Finset Rat := ∅
  pinnedStrikes : Finset Rat := ∅
  rebalanceCount : Nat := 0
  eodUnsubscribed : Bool := false
  chainEnabled : Bool := false
deriving DecidableEq

/-- The settings of the underlying. -/
structure Config where
  nse : Bool
  step : Rat
  depth : Nat

/-- An index tick, with its second of the day in India. -/
structure IndexTick where
  ltp : Rat
  time : Nat

def marketOpen : Nat := 9 * 3600 + 15 * 60

def nseClose : Nat := 15 * 3600 + 30 * 60

def rebalanceThreshold : Rat := 3

inductive FeederCall where
  | subscribe (strikes : Finset Rat)
  | unsubscribe (strikes : Finset Rat)
deriving DecidableEq

/-- The state, the feeder calls so far, and whether the assertion of a rebalance has
failed, which ends the tick loop. -/
structure Rebalancer where
  state : UnderlyingState := {}
  calls : List FeederCall := []
  failed : Bool := false
deriving DecidableEq

/-- The synchronous operations of other tasks. -/
inductive Call where
  | enableChain
  | pinStrike (strike : Rat)
  | unpinStrike (strike : Rat)
deriving DecidableEq

namespace UnderlyingState

def enableChain (state : UnderlyingState) : UnderlyingState := { state with chainEnabled := true }

def pinStrike (state : UnderlyingState) (strike : Rat) : UnderlyingState :=
  { state with
    pinnedStrikes := insert strike state.pinnedStrikes
    activeStrikes := insert strike state.activeStrikes }

def unpinStrike (state : UnderlyingState) (strike : Rat) : UnderlyingState :=
  { state with pinnedStrikes := state.pinnedStrikes.erase strike }

def call (state : UnderlyingState) : Call → UnderlyingState
  | .enableChain => state.enableChain
  | .pinStrike strike => state.pinStrike strike
  | .unpinStrike strike => state.unpinStrike strike

end UnderlyingState

/-- `_round_to_strike`. -/
def roundToStrike (price step : Rat) : Rat :=
  Rounding.roundTo 2 (Rounding.roundHalfEven (price / step) * step)

/-- `_strike_window`. -/
def strikeWindow (atm step : Rat) (depth : Nat) : Finset Rat :=
  (Finset.range (2 * depth + 1)).image (fun i : Nat => atm + ((i : Rat) - depth) * step)

/-- The strikes subscribed after some calls: subscribed and not unsubscribed later. -/
def subscribed (calls : List FeederCall) : Finset Rat :=
  calls.foldl (fun strikes call =>
    match call with
    | .subscribe more => strikes ∪ more
    | .unsubscribe fewer => strikes \ fewer) ∅

namespace Rebalancer

variable (cfg : Config)

/-- Other tasks run while a feeder call is awaited. -/
def during (rebalancer : Rebalancer) (calls : List Call) : Rebalancer :=
  { rebalancer with state := calls.foldl UnderlyingState.call rebalancer.state }

/-- Await a feeder call for some strikes. Without strikes, or without a resolvable
expiry, there are no tokens and no call is made. -/
def awaitFeeder (rebalancer : Rebalancer) (resolvable : Bool)
    (make : Finset Rat → FeederCall) (strikes : Finset Rat) (others : List Call) : Rebalancer :=
  if strikes = ∅ ∨ resolvable = false then rebalancer
  else { rebalancer with calls := rebalancer.calls ++ [make strikes] }.during others

/-- `_initial_subscribe`. -/
def initialSubscribe (rebalancer : Rebalancer) (atm : Rat) (resolvable : Bool)
    (others : List Call) : Rebalancer :=
  let state := rebalancer.state
  let window := if state.chainEnabled then strikeWindow atm cfg.step cfg.depth else ∅
  let active := window ∪ state.pinnedStrikes
  { rebalancer with
    state := { state with activeStrikes := active } }.awaitFeeder resolvable .subscribe active
      others

/-- The strikes that a rebalance drops. -/
def toUnsub (rebalancer : Rebalancer) (newAtm : Rat) : Finset Rat :=
  (rebalancer.state.activeStrikes \ strikeWindow newAtm cfg.step cfg.depth) \
    rebalancer.state.pinnedStrikes

/-- The strikes that a rebalance adds. -/
def toSub (rebalancer : Rebalancer) (newAtm : Rat) : Finset Rat :=
  strikeWindow newAtm cfg.step cfg.depth \ rebalancer.state.activeStrikes

/-- The end of a rebalance: the new active set, then the assertion. -/
def finishRebalance (rebalancer : Rebalancer) (newAtm : Rat) (unsub sub : Finset Rat) :
    Rebalancer :=
  let state := { rebalancer.state with
    activeStrikes := (rebalancer.state.activeStrikes \ unsub) ∪ sub }
  if state.pinnedStrikes ⊆ state.activeStrikes then
    { rebalancer with
      state := { state with
        currentAtm := some newAtm
        rebalanceCount := state.rebalanceCount + 1 } }
  else { rebalancer with state := state, failed := true }

/-- `_rebalance`. -/
def rebalance (rebalancer : Rebalancer) (newAtm : Rat) (resolvable : Bool)
    (first second : List Call) : Rebalancer :=
  let unsub := rebalancer.toUnsub cfg newAtm
  let sub := rebalancer.toSub cfg newAtm
  ((rebalancer.awaitFeeder resolvable .unsubscribe unsub first).awaitFeeder resolvable
    .subscribe sub second).finishRebalance newAtm unsub sub

/-- What a tick asks for once the close of the market is dealt with. -/
inductive Plan where
  | idle
  | initial (atm : Rat)
  | rebalance (atm : Rat)
deriving DecidableEq

def plan (state : UnderlyingState) (tick : IndexTick) : Plan :=
  let atm := roundToStrike tick.ltp cfg.step
  if state.openAtm = none ∧ marketOpen ≤ tick.time then
    if state.eodUnsubscribed then .idle else .initial atm
  else
    match state.currentAtm with
    | none => .idle
    | some current =>
        if rebalanceThreshold ≤ |atm - current| / cfg.step then .rebalance atm else .idle

/-- The first block of `_on_tick` marks the end of the day. -/
def markClose (rebalancer : Rebalancer) (tick : IndexTick) : Rebalancer :=
  if cfg.nse = true ∧ nseClose ≤ tick.time then
    { rebalancer with state := { rebalancer.state with eodUnsubscribed := true } }
  else rebalancer

/-- The second block: drop everything but the pins, once. -/
def eodUnsubscribe (rebalancer : Rebalancer) (resolvable : Bool) (others : List Call) :
    Rebalancer :=
  let unsub := rebalancer.state.activeStrikes \ rebalancer.state.pinnedStrikes
  let awaited :=
    if unsub = ∅ then rebalancer
    else
      { rebalancer with
        calls := rebalancer.calls ++ [FeederCall.unsubscribe (if resolvable then unsub else ∅)]
      }.during others
  { awaited with
    state := { awaited.state with
      activeStrikes := awaited.state.activeStrikes \ unsub
      eodUnsubscribed := true } }

/-- `_on_tick`. -/
def onTick (rebalancer : Rebalancer) (tick : IndexTick) (resolvable : Bool)
    (first second : List Call) : Rebalancer :=
  let rebalancer := rebalancer.markClose cfg tick
  if cfg.nse = true ∧ rebalancer.state.eodUnsubscribed = false ∧ nseClose ≤ tick.time then
    rebalancer.eodUnsubscribe resolvable first
  else
    match plan cfg rebalancer.state tick with
    | .idle => rebalancer
    | .initial atm =>
        { rebalancer with
          state := { rebalancer.state with
            openAtm := some atm
            currentAtm := some atm } }.initialSubscribe cfg atm resolvable first
    | .rebalance atm => rebalancer.rebalance cfg atm resolvable first second

end Rebalancer

/-- A call of another task, or a tick with the calls made during its waits. -/
inductive Event where
  | call (call : Call)
  | tick (tick : IndexTick) (resolvable : Bool) (first second : List Call)

/-- A failed assertion has ended the tick loop. -/
def step (cfg : Config) (rebalancer : Rebalancer) : Event → Rebalancer
  | .call call => rebalancer.during [call]
  | .tick tick resolvable first second =>
      if rebalancer.failed then rebalancer
      else rebalancer.onTick cfg tick resolvable first second

/-- The block that unsubscribes at the close is never entered: the block before it
has already marked the day as ended. -/
theorem onTick_eq (cfg : Config) (rebalancer : Rebalancer) (tick : IndexTick)
    (resolvable : Bool) (first second : List Call) :
    rebalancer.onTick cfg tick resolvable first second =
      match Rebalancer.plan cfg (rebalancer.markClose cfg tick).state tick with
      | .idle => rebalancer.markClose cfg tick
      | .initial atm =>
          { rebalancer.markClose cfg tick with
            state := { (rebalancer.markClose cfg tick).state with
              openAtm := some atm
              currentAtm := some atm } }.initialSubscribe cfg atm resolvable first
      | .rebalance atm =>
          (rebalancer.markClose cfg tick).rebalance cfg atm resolvable first second := by
  have dead : ¬ (cfg.nse = true ∧ (rebalancer.markClose cfg tick).state.eodUnsubscribed = false ∧
      nseClose ≤ tick.time) := by
    rintro ⟨nse, unmarked, closed⟩
    simp [Rebalancer.markClose, nse, closed] at unmarked
  unfold Rebalancer.onTick
  exact if_neg dead

end OptionChain.StrikeRebalancer
