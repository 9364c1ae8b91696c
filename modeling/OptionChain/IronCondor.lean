import OptionChain.CondorPosition
import OptionChain.Rounding

/-!
# The iron condor strategy

Entry, exits, the ratio-shift adjustment and the close, each cut at the points
where the source awaits: a subscription before an entry and the trade log after
an entry, an adjustment or a close. Publishing on the bus never suspends, so the
published orders are a list here.

Premiums, bids and asks are cached under keys that name the expiry. The
adjustment and the close look them up under keys that do not, so both key formats
are kept apart. Settings are reloaded while the strategy runs and come with each
event, as the clock does; log texts and log throttles are left out.
-/

namespace OptionChain.IronCondor

open Broker Rounding CondorPosition

/-- The texts of cache keys: `_pkey` writes `{expiry}:{strike}{type}`, the others
are `{underlying}{strike}{type}`, without a colon. -/
inductive CacheKey where
  | dated (expiry : Day) (strike : Int) (optType : OptType)
  | undated (underlying : String) (strike : Int) (optType : OptType)
deriving DecidableEq

/-- `_pkey`. -/
def pkey (expiry : Day) (strike : Rat) (optType : OptType) : CacheKey :=
  .dated expiry (towardZero strike) optType

/-- The key that the adjustment and the close build. -/
def legKey (underlying : String) (strike : Rat) (optType : OptType) : CacheKey :=
  .undated underlying (towardZero strike) optType

/-- A price cache. The option loop is its only writer and writes dated keys. -/
structure QuoteCache where
  get : CacheKey → Option Rat
  dated : ∀ underlying strike optType, get (.undated underlying strike optType) = none

def QuoteCache.empty : QuoteCache := ⟨fun _ => none, fun _ _ _ => rfl⟩

def QuoteCache.put (cache : QuoteCache) (expiry : Day) (strike : Rat) (optType : OptType)
    (price : Rat) : QuoteCache where
  get key := if key = pkey expiry strike optType then some price else cache.get key
  dated underlying other side := by
    rw [if_neg (by simp [pkey])]
    exact cache.dated underlying other side

/-- No price is found under a leg key. -/
@[simp] theorem get_legKey (cache : QuoteCache) (underlying : String) (strike : Rat)
    (optType : OptType) : cache.get (legKey underlying strike optType) = none :=
  cache.dated _ _ _

inductive Action where
  | entry
  | adjustClose
  | adjustOpen
  | exit
deriving DecidableEq

/-- `ICOrderEvent`. -/
structure ICOrderEvent where
  action : Action
  underlying : String
  atm : Rat
  shortCeStrike : Rat
  shortPeStrike : Rat
  shortCeLtp : Rat
  shortPeLtp : Rat
  longCeStrike : Rat
  longPeStrike : Rat
  longCeLtp : Rat
  longPeLtp : Rat
  lotSize : Int := 65
  lotMultiplier : Int := 1
  closeReason : String := ""
  cumulativePnl : Rat := 0
  eventId : String := ""
  expiry : Option Day := none
deriving DecidableEq

/-- The thresholds and the runtime configuration that an event meets. -/
structure Settings where
  startTime : Rat
  entryDay : String
  productType : String
  profitTarget : Rat
  stoploss : Rat
  ratioTrigger : Rat
  shortOtm : Rat
  wingPts : Rat
  lotSize : Int
  strikeStep : Int
  maxAdj : Int
  minLtp : Rat
  adjustCooldown : Rat
  entryGraceSec : Rat
  reentryCooldownSec : Rat
deriving DecidableEq

/-- The defaults of `_load_thresholds`, `_check_exits` and `_close_position`. -/
def Settings.shipped : Settings where
  startTime := 33360
  entryDay := "daily"
  productType := "MIS"
  profitTarget := 5000
  stoploss := 2000
  ratioTrigger := 2
  shortOtm := 300
  wingPts := 150
  lotSize := 65
  strikeStep := 50
  maxAdj := 4
  minLtp := 0
  adjustCooldown := 60
  entryGraceSec := 5
  reentryCooldownSec := 60

/-- The clocks and the registry at an event. -/
structure Clock where
  monotonic : Rat
  now : Rat
  timeOfDay : Rat
  weekday : Fin 7
  today : Day
  expiries : List Day
deriving DecidableEq

structure OptionTick where
  underlying : String
  expiry : Day
  strike : Rat
  optionType : OptType
  ltp : Rat
  bid : Rat
  ask : Rat
deriving DecidableEq

structure Strategy where
  underlying : String
  position : Option IronCondorPosition := none
  spot : Rat := 0
  prem : QuoteCache := .empty
  bid : QuoteCache := .empty
  ask : QuoteCache := .empty
  adjusting : Bool := false
  lastEntryAttempt : Rat := 0
  reentryUntil : Rat := 0
  lastAdjustT : Rat := 0
  stored : Option StoredFile := none
  published : List ICOrderEvent := []
  tickLoopAlive : Bool := true

def Strategy.publish (strategy : Strategy) (event : ICOrderEvent) : Strategy :=
  { strategy with published := strategy.published ++ [event] }

/-- `_persist`: a position that is not open clears the file. -/
def persist (settings : Settings) (clock : Clock) (strategy : Strategy) : Strategy :=
  match strategy.position with
  | some pos =>
      if pos.status = .open then
        { strategy with stored := some ⟨clock.today, settings.productType, pos.toDict⟩ }
      else { strategy with stored := none }
  | none => { strategy with stored := none }

/-- The restore in `start`. -/
def restore (today : Day) (strategy : Strategy) : Strategy :=
  { strategy with
    position := (load today strategy.stored).map (Snapshot.fromDict today)
    stored := (load today strategy.stored).bind (fun _ => strategy.stored) }

/-! ## Prices -/

/-- `_update_leg_ltp` for one leg. -/
def updateLegLtp (tick : OptionTick) (leg : IronCondorLeg) : IronCondorLeg :=
  if |leg.strike - tick.strike| < 1 / 100 ∧ leg.optionType = tick.optionType then
    { leg with ltp := tick.ltp }
  else leg

@[simp] theorem updateLegLtp_entryPrice (tick : OptionTick) (leg : IronCondorLeg) :
    (updateLegLtp tick leg).entryPrice = leg.entryPrice := by
  rw [updateLegLtp]
  split <;> rfl

@[simp] theorem updateLegLtp_strike (tick : OptionTick) (leg : IronCondorLeg) :
    (updateLegLtp tick leg).strike = leg.strike := by
  rw [updateLegLtp]
  split <;> rfl

/-- `_update_leg_ltp`. -/
def IronCondorPosition.updateLtp (tick : OptionTick) (pos : IronCondorPosition) :
    IronCondorPosition :=
  if tick.expiry ≠ pos.expiry then pos
  else
    { pos with
      shortCe := updateLegLtp tick pos.shortCe
      shortPe := updateLegLtp tick pos.shortPe
      longCe := updateLegLtp tick pos.longCe
      longPe := updateLegLtp tick pos.longPe
      credited := by simpa [entryCredit] using pos.credited }

@[simp] theorem updateLtp_status (tick : OptionTick) (pos : IronCondorPosition) :
    (IronCondorPosition.updateLtp tick pos).status = pos.status := by
  rw [IronCondorPosition.updateLtp]
  split <;> rfl

@[simp] theorem updateLtp_lotSize (tick : OptionTick) (pos : IronCondorPosition) :
    (IronCondorPosition.updateLtp tick pos).lotSize = pos.lotSize := by
  rw [IronCondorPosition.updateLtp]
  split <;> rfl

@[simp] theorem updateLtp_tradeId (tick : OptionTick) (pos : IronCondorPosition) :
    (IronCondorPosition.updateLtp tick pos).tradeId = pos.tradeId := by
  rw [IronCondorPosition.updateLtp]
  split <;> rfl

/-- The body of `_option_loop`. -/
def optionTick (tick : OptionTick) (strategy : Strategy) : Strategy :=
  let cached :=
    if tick.underlying = strategy.underlying then
      { strategy with
        prem := strategy.prem.put tick.expiry tick.strike tick.optionType tick.ltp
        bid := if 0 < tick.bid then
          strategy.bid.put tick.expiry tick.strike tick.optionType tick.bid else strategy.bid
        ask := if 0 < tick.ask then
          strategy.ask.put tick.expiry tick.strike tick.optionType tick.ask else strategy.ask }
    else strategy
  match cached.position with
  | none => cached
  | some pos =>
      if pos.underlying = tick.underlying then
        { cached with position := some (IronCondorPosition.updateLtp tick pos) }
      else cached

/-- `_prem`. -/
def premium (strategy : Strategy) (expiry : Day) (strike : Rat) (optType : OptType) : Rat :=
  (strategy.prem.get (pkey expiry strike optType)).getD 0

/-- `_exec_price`: the ask to buy, the bid to sell, else the last price. -/
def execPrice (strategy : Strategy) (key : CacheKey) (side : OrderSide) : Rat :=
  let ltp := (strategy.prem.get key).getD 0
  let book := match side with
    | .buy => strategy.ask
    | .sell => strategy.bid
  let quote := (book.get key).getD ltp
  if quote = 0 then ltp else quote

/-- Under a leg key there is neither a quote nor a last price. -/
@[simp] theorem execPrice_legKey (strategy : Strategy) (underlying : String) (strike : Rat)
    (optType : OptType) (side : OrderSide) :
    execPrice strategy (legKey underlying strike optType) side = 0 := by
  cases side <;> simp [execPrice]

/-- `compute_atm`. -/
def computeAtm (spot : Rat) (step : Int) : Rat := (roundHalfEven (spot / step) * step : Int)

/-! ## Entry -/

/-- `choose_expiry`. -/
def chooseExpiry (minLtp : Rat) : List (Day × Rat × Rat) → Option Day
  | [] => none
  | (expiry, ceLtp, peLtp) :: rest =>
      if ceLtp ≤ 0 ∨ peLtp ≤ 0 then chooseExpiry minLtp rest
      else if 0 < minLtp ∧ (ceLtp < minLtp ∨ peLtp < minLtp) then chooseExpiry minLtp rest
      else some expiry

def dayNames : List String :=
  ["monday", "tuesday", "wednesday", "thursday", "friday", "saturday", "sunday"]

/-- `_candidate_expiries`. -/
def candidateExpiries (clock : Clock) : List Day :=
  (clock.expiries.filter (fun expiry => decide (clock.today ≤ expiry))).take 2

/-- The locals of `_try_entry` when it first awaits a subscription. -/
structure EntryPlan where
  atm : Rat
  shortCeStrike : Rat
  shortPeStrike : Rat
  longCeStrike : Rat
  longPeStrike : Rat
  candidates : List Day
deriving DecidableEq

/-- The gates of time, day and position, and a known spot. A strike step of zero
raises in `compute_atm`, which ends the attempt. -/
def entryAllowed (settings : Settings) (clock : Clock) (strategy : Strategy) : Prop :=
  settings.startTime ≤ clock.timeOfDay ∧
    (settings.entryDay = "daily" ∨ dayNames[clock.weekday]? = some settings.entryDay) ∧
    (∀ pos ∈ strategy.position, pos.status ≠ .open) ∧
    0 < strategy.spot ∧ settings.strikeStep ≠ 0

instance (settings : Settings) (clock : Clock) (strategy : Strategy) :
    Decidable (entryAllowed settings clock strategy) :=
  inferInstanceAs (Decidable (_ ∧ _ ∧ (∀ pos ∈ strategy.position, _) ∧ _ ∧ _))

/-- `_try_entry` up to the subscriptions. -/
def tryEntry (settings : Settings) (clock : Clock) (strategy : Strategy) :
    Strategy × Option EntryPlan :=
  if clock.monotonic - strategy.lastEntryAttempt < 1 then (strategy, none)
  else
    let tried := { strategy with lastEntryAttempt := clock.monotonic }
    if clock.monotonic < strategy.reentryUntil then (tried, none)
    else if entryAllowed settings clock strategy then
      let atm := computeAtm strategy.spot settings.strikeStep
      let shortCe := atm + settings.shortOtm
      let shortPe := atm - settings.shortOtm
      let candidates := candidateExpiries clock
      if candidates = [] then (tried, none)
      else (tried, some ⟨atm, shortCe, shortPe, shortCe + settings.wingPts,
        shortPe - settings.wingPts, candidates⟩)
    else (tried, none)

/-- The expiry of the entry, where both shorts are priced and above the floor. -/
def entryExpiry (settings : Settings) (plan : EntryPlan) (strategy : Strategy) : Option Day :=
  chooseExpiry settings.minLtp (plan.candidates.map (fun expiry =>
    (expiry, premium strategy expiry plan.shortCeStrike .ce,
      premium strategy expiry plan.shortPeStrike .pe)))

/-- The position that an entry opens at the cached premiums of an expiry. -/
def entryPosition (settings : Settings) (plan : EntryPlan) (expiry : Day) (tradeId : String)
    (now : Rat) (strategy : Strategy) : IronCondorPosition :=
  let shortCe := premium strategy expiry plan.shortCeStrike .ce
  let shortPe := premium strategy expiry plan.shortPeStrike .pe
  let longCe := premium strategy expiry plan.longCeStrike .ce
  let longPe := premium strategy expiry plan.longPeStrike .pe
  { underlying := strategy.underlying, expiry := expiry, atmAtEntry := plan.atm
    tradeId := tradeId
    shortCe := ⟨.sell, .ce, plan.shortCeStrike, shortCe, shortCe, false⟩
    shortPe := ⟨.sell, .pe, plan.shortPeStrike, shortPe, shortPe, false⟩
    longCe := ⟨.buy, .ce, plan.longCeStrike, longCe, longCe, false⟩
    longPe := ⟨.buy, .pe, plan.longPeStrike, longPe, longPe, false⟩
    netCredit := (shortCe + shortPe) - (longCe + longPe)
    openTime := some now, originalDiff := settings.shortOtm, wingPts := settings.wingPts
    profitTargetRs := settings.profitTarget, slRs := settings.stoploss
    maxAdj := settings.maxAdj, lotSize := settings.lotSize, credited := rfl }

/-- All four legs are priced and the credit is positive. -/
def Fireable (pos : IronCondorPosition) : Prop :=
  0 < pos.netCredit ∧ 0 < pos.shortCe.entryPrice ∧ 0 < pos.shortPe.entryPrice ∧
    0 < pos.longCe.entryPrice ∧ 0 < pos.longPe.entryPrice

instance (pos : IronCondorPosition) : Decidable (Fireable pos) :=
  inferInstanceAs (Decidable (_ ∧ _))

/-- The order of an entry. -/
def entryEvent (pos : IronCondorPosition) : ICOrderEvent :=
  { action := .entry, underlying := pos.underlying, atm := pos.atmAtEntry
    shortCeStrike := pos.shortCe.strike, shortPeStrike := pos.shortPe.strike
    shortCeLtp := pos.shortCe.ltp, shortPeLtp := pos.shortPe.ltp
    longCeStrike := pos.longCe.strike, longPeStrike := pos.longPe.strike
    longCeLtp := pos.longCe.ltp, longPeLtp := pos.longPe.ltp, lotSize := pos.lotSize
    eventId := pos.tradeId, expiry := some pos.expiry }

/-- The position that `_try_entry` would open after the subscriptions. -/
def entryFor (settings : Settings) (clock : Clock) (plan : EntryPlan) (tradeId : String)
    (strategy : Strategy) : Option IronCondorPosition :=
  match entryExpiry settings plan strategy with
  | none => none
  | some expiry =>
      let pos := entryPosition settings plan expiry tradeId clock.now strategy
      if Fireable pos then some pos else none

/-- `_try_entry` after the subscriptions. -/
def fireEntry (settings : Settings) (clock : Clock) (plan : EntryPlan) (tradeId : String)
    (strategy : Strategy) : Strategy :=
  match entryFor settings clock plan tradeId strategy with
  | none => strategy
  | some pos =>
      persist settings clock
        { strategy.publish (entryEvent pos) with position := some pos }

/-! ## Close -/

/-- `_prem_cache.get(key, leg.entry_price)`. -/
def exitPrice (strategy : Strategy) (leg : IronCondorLeg) (optType : OptType) : Rat :=
  (strategy.prem.get (legKey strategy.underlying leg.strike optType)).getD leg.entryPrice

/-- The order of a close carries the entry prices. -/
@[simp] theorem exitPrice_eq (strategy : Strategy) (leg : IronCondorLeg) (optType : OptType) :
    exitPrice strategy leg optType = leg.entryPrice := by
  simp [exitPrice]

/-- The order of a close. It carries no expiry. -/
def exitEvent (reason : String) (pos : IronCondorPosition) (strategy : Strategy) :
    ICOrderEvent :=
  { action := .exit, underlying := pos.underlying, atm := pos.atmAtEntry
    shortCeStrike := pos.shortCe.strike, shortPeStrike := pos.shortPe.strike
    shortCeLtp := exitPrice strategy pos.shortCe .ce
    shortPeLtp := exitPrice strategy pos.shortPe .pe
    longCeStrike := pos.longCe.strike, longPeStrike := pos.longPe.strike
    longCeLtp := exitPrice strategy pos.longCe .ce
    longPeLtp := exitPrice strategy pos.longPe .pe
    lotSize := pos.lotSize, closeReason := reason, cumulativePnl := pos.cumulativeAdjPnl
    eventId := pos.tradeId }

/-- `_close_position` up to the trade log: whether it goes on. -/
def beginClose (reason : String) (strategy : Strategy) : Strategy × Bool :=
  match strategy.position with
  | none => (strategy, false)
  | some pos =>
      ({ strategy.publish (exitEvent reason pos strategy) with
        position := some { pos with status := .closed } }, true)

/-- `_close_position` after the trade log. -/
def finishClose (settings : Settings) (clock : Clock) (strategy : Strategy) : Strategy :=
  let cleared := persist settings clock { strategy with position := none }
  { cleared with reentryUntil := clock.monotonic + settings.reentryCooldownSec }

/-- `_close_position` without a suspension. -/
def closePosition (settings : Settings) (clock : Clock) (reason : String)
    (strategy : Strategy) : Strategy :=
  match beginClose reason strategy with
  | (closing, true) => finishClose settings clock closing
  | (same, false) => same

/-! ## Exits -/

/-- The reason for which `_check_exits` closes a position. -/
def exitReason (settings : Settings) (clock : Clock) (pos : IronCondorPosition) :
    Option String :=
  if ∃ opened ∈ pos.openTime, clock.now - opened < settings.entryGraceSec then none
  else if pos.profitTargetRs ≤ pos.totalPnlRs then some "profit_target"
  else if pos.totalPnlRs ≤ -pos.slRs then some "stop_loss"
  else none

/-! ## Adjustment -/

/-- What `adjust_iron_condor` leaves to do after its first synchronous part. -/
inductive Adjusted where
  | skipped
  | failed
  | rolled (adjCount : Nat) (maxAdj : Int)
deriving DecidableEq

/-- The bid and ask that the profitable side is closed at. -/
def realized (pos : IronCondorPosition) (side : OptType) (strategy : Strategy) : Rat :=
  let shortPx := execPrice strategy
    (legKey strategy.underlying (pos.short side).strike side) .buy
  let hedgePx := execPrice strategy
    (legKey strategy.underlying (pos.long side).strike side) .sell
  ((pos.short side).entryPrice - shortPx) * pos.lotSize +
    (hedgePx - (pos.long side).entryPrice) * pos.lotSize

def sideText : OptType → String
  | .ce => "CE"
  | .pe => "PE"

def adjustEventId (pos : IronCondorPosition) (side : OptType) : String :=
  pos.tradeId ++ "_adj" ++ toString (pos.adjCount side + 1)

/-- A value for the side that is adjusted, another for the other side. -/
def onSide (side which : OptType) (adjusted other : Rat) : Rat :=
  if side = which then adjusted else other

/-- The order that closes the profitable side. The position already carries the
realised points. -/
def adjustCloseEvent (pos : IronCondorPosition) (side : OptType) (strategy : Strategy) :
    ICOrderEvent :=
  let shortPx := execPrice strategy
    (legKey strategy.underlying (pos.short side).strike side) .buy
  let hedgePx := execPrice strategy
    (legKey strategy.underlying (pos.long side).strike side) .sell
  { action := .adjustClose, underlying := pos.underlying, atm := strategy.spot
    shortCeStrike := pos.shortCe.strike, shortPeStrike := pos.shortPe.strike
    shortCeLtp := onSide side .ce shortPx 0, shortPeLtp := onSide side .pe shortPx 0
    longCeStrike := pos.longCe.strike, longPeStrike := pos.longPe.strike
    longCeLtp := onSide side .ce hedgePx 0, longPeLtp := onSide side .pe hedgePx 0
    lotSize := pos.lotSize, closeReason := "ratio_shift_" ++ sideText side
    cumulativePnl := pos.cumulativeAdjPnl, eventId := adjustEventId pos side }

/-- `direction`. -/
def direction : OptType → Rat
  | .ce => 1
  | .pe => -1

/-- The new short strike: half the original distance from the money. -/
def newShortStrike (settings : Settings) (pos : IronCondorPosition) (side : OptType)
    (strategy : Strategy) : Rat :=
  computeAtm (computeAtm strategy.spot settings.strikeStep + direction side *
    (pos.originalDiff / 2)) settings.strikeStep

/-- The new hedge strike, which only the order of the adjustment names. -/
def newHedgeStrike (settings : Settings) (pos : IronCondorPosition) (side : OptType)
    (strategy : Strategy) : Rat :=
  computeAtm (newShortStrike settings pos side strategy + direction side * pos.wingPts)
    settings.strikeStep

/-- The order that opens the new side. -/
def adjustOpenEvent (settings : Settings) (pos : IronCondorPosition) (side : OptType)
    (strategy : Strategy) : ICOrderEvent :=
  let short := newShortStrike settings pos side strategy
  let hedge := newHedgeStrike settings pos side strategy
  let shortPx := execPrice strategy (legKey strategy.underlying short side) .sell
  let hedgePx := execPrice strategy (legKey strategy.underlying hedge side) .buy
  { action := .adjustOpen, underlying := pos.underlying
    atm := computeAtm strategy.spot settings.strikeStep
    shortCeStrike := onSide side .ce short pos.shortCe.strike
    shortPeStrike := onSide side .pe short pos.shortPe.strike
    shortCeLtp := onSide side .ce shortPx pos.shortCe.ltp
    shortPeLtp := onSide side .pe shortPx pos.shortPe.ltp
    longCeStrike := onSide side .ce hedge pos.longCe.strike
    longPeStrike := onSide side .pe hedge pos.longPe.strike
    longCeLtp := onSide side .ce hedgePx pos.longCe.ltp
    longPeLtp := onSide side .pe hedgePx pos.longPe.ltp
    lotSize := pos.lotSize, eventId := adjustEventId pos side ++ "_open" }

/-- The position after a roll: the old short strike is the new hedge, entered at
its last price, and the new short is entered at a given price. -/
def IronCondorPosition.roll (pos : IronCondorPosition) (side : OptType) (strike price : Rat) :
    IronCondorPosition :=
  match side with
  | .ce =>
      { pos with
        longCe := ⟨.buy, .ce, pos.shortCe.strike, pos.shortCe.ltp, pos.shortCe.ltp, false⟩
        shortCe := ⟨.sell, .ce, strike, price, price, false⟩
        adjCountCe := pos.adjCountCe + 1
        netCredit := (price + pos.shortPe.entryPrice) -
          (pos.shortCe.ltp + pos.longPe.entryPrice)
        credited := rfl }
  | .pe =>
      { pos with
        longPe := ⟨.buy, .pe, pos.shortPe.strike, pos.shortPe.ltp, pos.shortPe.ltp, false⟩
        shortPe := ⟨.sell, .pe, strike, price, price, false⟩
        adjCountPe := pos.adjCountPe + 1
        netCredit := (pos.shortCe.entryPrice + price) -
          (pos.longCe.entryPrice + pos.shortPe.ltp)
        credited := rfl }

/-- The error path: a position that is not closed is marked broken. -/
def markBroken (strategy : Strategy) : Strategy :=
  { strategy with
    position := strategy.position.map (fun pos =>
      if pos.status = .closed then pos else { pos with status := .broken }) }

/-- The position once the realised points are booked. -/
def IronCondorPosition.booked (pos : IronCondorPosition) (side : OptType)
    (strategy : Strategy) : IronCondorPosition :=
  { pos with cumulativeAdjPnl := pos.cumulativeAdjPnl + realized pos side strategy / pos.lotSize }

/-- `adjust_iron_condor` up to its first trade log. A lot size of zero raises
before the points are booked, a strike step of zero after the first order. -/
def beginAdjust (settings : Settings) (side : OptType) (strategy : Strategy) :
    Strategy × Adjusted :=
  match strategy.position with
  | none => (strategy, .skipped)
  | some pos =>
      if strategy.adjusting ∨ pos.status = .broken then (strategy, .skipped)
      else
        let locked := { strategy with adjusting := true }
        if pos.lotSize = 0 then (markBroken locked, .failed)
        else
          let booked := IronCondorPosition.booked pos side strategy
          let closed := { locked.publish (adjustCloseEvent booked side strategy) with
            position := some booked }
          if settings.strikeStep = 0 then (markBroken closed, .failed)
          else
            let strike := newShortStrike settings booked side strategy
            let price := execPrice strategy (legKey strategy.underlying strike side) .sell
            let rolled := IronCondorPosition.roll booked side strike price
            ({ closed.publish (adjustOpenEvent settings booked side strategy) with
              position := some rolled }, .rolled (rolled.adjCount side) rolled.maxAdj)

/-- The `finally` of an adjustment. -/
def unlock (strategy : Strategy) : Strategy := { strategy with adjusting := false }

/-- `adjust_iron_condor` without a suspension. -/
def adjustIronCondor (settings : Settings) (clock : Clock) (side : OptType)
    (strategy : Strategy) : Strategy :=
  match beginAdjust settings side strategy with
  | (same, .skipped) => same
  | (broken, .failed) => unlock broken
  | (rolled, .rolled adjCount maxAdj) =>
      if maxAdj ≤ adjCount then
        unlock (closePosition settings clock "max_adjustments_reached" rolled)
      else unlock rolled

/-! ## The tick of an open position -/

inductive PyError where
  | nameError
deriving DecidableEq

/-- `check_adjustment_criteria`: the side that is to be adjusted. -/
def adjustmentSide (settings : Settings) (strategy : Strategy) : Option OptType :=
  match strategy.position with
  | none => none
  | some pos =>
      if pos.status ≠ .open ∨ pos.shortCe.ltp ≤ 0 ∨ pos.shortPe.ltp ≤ 0 then none
      else if settings.ratioTrigger ≤ pos.shortCe.ltp / pos.shortPe.ltp then some .pe
      else if settings.ratioTrigger ≤ pos.shortPe.ltp / pos.shortCe.ltp then some .ce
      else none

/-- `_check_adjustment_criteria`: the name `_t` is bound nowhere, so a side that
is to be adjusted raises before the adjustment. -/
def checkAdjustmentCriteria (settings : Settings) (clock : Clock) (strategy : Strategy) :
    Except PyError Strategy :=
  if strategy.adjusting then .ok strategy
  else if clock.monotonic - strategy.lastAdjustT < settings.adjustCooldown then .ok strategy
  else
    match adjustmentSide settings strategy with
    | none => .ok strategy
    | some _ => .error .nameError

/-- `_check_exits`. -/
def checkExits (settings : Settings) (clock : Clock) (strategy : Strategy) : Strategy :=
  match strategy.position with
  | none => strategy
  | some pos =>
      match exitReason settings clock pos with
      | some reason => closePosition settings clock reason strategy
      | none => strategy

/-- The work of `_tick_loop` on an open position. -/
def openTick (settings : Settings) (clock : Clock) (strategy : Strategy) :
    Except PyError Strategy :=
  checkAdjustmentCriteria settings clock (checkExits settings clock strategy)

/-- The open branch of `_tick_loop`, which an error ends for good. -/
def manage (settings : Settings) (clock : Clock) (strategy : Strategy) : Strategy :=
  match openTick settings clock strategy with
  | .ok after => after
  | .error _ => { checkExits settings clock strategy with tickLoopAlive := false }

/-- `self._spot = tick.ltp`. -/
def Strategy.ticked (strategy : Strategy) (ltp : Rat) : Strategy := { strategy with spot := ltp }

/-- The tick loop manages the position and does not try to enter. -/
def managed (strategy : Strategy) : Prop :=
  ∃ pos ∈ strategy.position, pos.status = .open

instance (strategy : Strategy) : Decidable (managed strategy) :=
  inferInstanceAs (Decidable (∃ pos ∈ strategy.position, pos.status = .open))

/-- One attempt to enter without a suspension. -/
def enter (settings : Settings) (clock : Clock) (tradeId : String) (strategy : Strategy) :
    Strategy :=
  match tryEntry settings clock strategy with
  | (tried, none) => tried
  | (tried, some plan) => fireEntry settings clock plan tradeId tried

/-- The body of `_tick_loop`. -/
def indexTick (settings : Settings) (clock : Clock) (ltp : Rat) (tradeId : String)
    (strategy : Strategy) : Strategy :=
  if strategy.tickLoopAlive then
    let ticked := strategy.ticked ltp
    if managed ticked then
      if ticked.adjusting then ticked else manage settings clock ticked
    else enter settings clock tradeId ticked
  else strategy

/-! ## Events that are handled one after the other -/

inductive Operation where
  | optionTick (tick : OptionTick)
  | indexTick (ltp : Rat) (tradeId : String)
  | candle (tradeId : String)
  | adjust (side : OptType)
  | close (reason : String)
deriving DecidableEq

/-- An operation with the settings and the clocks it meets. -/
structure CondorEvent where
  settings : Settings
  clock : Clock
  operation : Operation
deriving DecidableEq

def operate (strategy : Strategy) (event : CondorEvent) : Strategy :=
  match event.operation with
  | .optionTick tick => optionTick tick strategy
  | .indexTick ltp tradeId => indexTick event.settings event.clock ltp tradeId strategy
  | .candle tradeId => enter event.settings event.clock tradeId strategy
  | .adjust side => adjustIronCondor event.settings event.clock side strategy
  | .close reason => closePosition event.settings event.clock reason strategy

/-! ## A condor of 24600 -/

/-- A condor of 24600 with the same prices on both sides, and no earlier
adjustment. -/
def condorAt (shortEntry longEntry shortLtp longLtp : Rat) : IronCondorPosition where
  underlying := "NIFTY"
  expiry := 10
  atmAtEntry := 24600
  tradeId := "t1"
  shortCe := ⟨.sell, .ce, 24900, shortEntry, shortLtp, false⟩
  shortPe := ⟨.sell, .pe, 24300, shortEntry, shortLtp, false⟩
  longCe := ⟨.buy, .ce, 25050, longEntry, longLtp, false⟩
  longPe := ⟨.buy, .pe, 24150, longEntry, longLtp, false⟩
  netCredit := (shortEntry + shortEntry) - (longEntry + longEntry)
  credited := rfl

/-- The quotes of a condor just entered: shorts at 60, hedges at 30. -/
def entryQuotes : QuoteCache :=
  (((QuoteCache.empty.put 10 24900 .ce 60).put 10 24300 .pe 60).put 10 25050 .ce 30).put
    10 24150 .pe 30

def noon : Clock where
  monotonic := 1000
  now := 43200
  timeOfDay := 43200
  weekday := 1
  today := 8
  expiries := [10, 17]

end OptionChain.IronCondor
