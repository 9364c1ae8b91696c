import OptionChain.Rounding
import OptionChain.Runs
import OptionChain.StraddleEvents

/-!
# One straddle book

A book sells both legs of a straddle, keeps an optimistic position, and learns
from fill events what the bridge made of its orders. Publishing on the bus never
suspends, so every operation is one step: it changes the book and emits orders
and snapshots in order.

Settings are reloaded between operations and the clock moves, so both come with
the event. Open and close times, broker marks, logs and the indicator series are
left out.
-/

namespace OptionChain.StraddleBook

open Broker Rounding StraddleEvents

/-- `intrinsic_value`. -/
def intrinsicValue (optType : OptType) (strike spot : Rat) : Rat :=
  match optType with
  | .ce => max 0 (spot - strike)
  | .pe => max 0 (strike - spot)

/-- `time_value`. -/
def timeValue (optType : OptType) (strike spot premium : Rat) : Rat :=
  |premium - intrinsicValue optType strike spot|

/-- `combined_time_value`. -/
def combinedTimeValue (ceStrike peStrike spot cePremium pePremium : Rat) : Rat :=
  timeValue .ce ceStrike spot cePremium + timeValue .pe peStrike spot pePremium

structure StraddleLeg where
  strike : Rat
  entryPrice : Rat
  ltp : Rat
  openReason : String := ""
  symbol : String := ""
deriving DecidableEq

inductive PositionStatus where
  | «open»
  | closed
deriving DecidableEq

/-- No session minimum is the source's infinity. -/
structure StraddlePosition where
  underlying : String
  atmAtEntry : Rat
  entrySpot : Rat
  ceLeg : StraddleLeg
  peLeg : StraddleLeg
  netCredit : Rat
  tslHighLockRs : Rat := 0
  peakProfit : Rat := 0
  trailingActive : Bool := false
  status : PositionStatus := .open
  sessionMinVwap : Option Rat := none
  trailPeakPct : Rat := 0
  entryTimeValue : Rat := 0
  lotSize : Int := 0
  vwapLastGood : Rat := 0
deriving DecidableEq

def StraddlePosition.leg (pos : StraddlePosition) : OptType → StraddleLeg
  | .ce => pos.ceLeg
  | .pe => pos.peLeg

def StraddlePosition.setLeg (pos : StraddlePosition) (optType : OptType) (leg : StraddleLeg) :
    StraddlePosition :=
  match optType with
  | .ce => { pos with ceLeg := leg }
  | .pe => { pos with peLeg := leg }

/-- `net_credit - current_value`. -/
def StraddlePosition.unrealizedPnl (pos : StraddlePosition) : Rat :=
  pos.netCredit - (pos.ceLeg.ltp + pos.peLeg.ltp)

/-- `current_time_value`. -/
def StraddlePosition.currentTimeValue (pos : StraddlePosition) (spot : Rat) : Rat :=
  combinedTimeValue pos.ceLeg.strike pos.peLeg.strike spot pos.ceLeg.ltp pos.peLeg.ltp

/-- Whose book it is. -/
structure Identity where
  underlying : String
  clientId : String
  bindingId : String
deriving DecidableEq

structure Settings where
  step : Rat
  lotSize : Int
  lotMultiplier : Int
  slCooldownMinutes : Rat
deriving DecidableEq

structure Book where
  position : Option StraddlePosition
  tradesToday : Nat
  orderPending : Bool
  slCooldownUntil : Option Int
  sessionRealizedPnlPts : Rat
  initialNetCredit : Rat
  initialEntryTimeValue : Rat
  stopForDay : Bool
  spot : Rat
  eventCounter : Nat
deriving DecidableEq

/-- A book as constructed. -/
def Book.fresh : Book where
  position := none
  tradesToday := 0
  orderPending := false
  slCooldownUntil := none
  sessionRealizedPnlPts := 0
  initialNetCredit := 0
  initialEntryTimeValue := 0
  stopForDay := false
  spot := 0
  eventCounter := 0

/-- What `_persist` writes: the open position or nothing, and the session. -/
structure Snapshot where
  position : Option StraddlePosition
  sessionRealizedPnlPts : Rat
  tradesToday : Nat
  stopForDay : Bool
deriving DecidableEq

inductive Effect where
  | order (ev : StraddleOrderEvent)
  | persist (snapshot : Snapshot)
deriving DecidableEq

/-- `_persist`. -/
def persist (book : Book) : Effect :=
  .persist
    { position := book.position.filter (fun pos => pos.status = .open)
      sessionRealizedPnlPts := book.sessionRealizedPnlPts
      tradesToday := book.tradesToday
      stopForDay := book.stopForDay }

/-- `int(x)`. -/
def truncate (x : Rat) : Int := x.num.tdiv x.den

section Operations

variable (identity : Identity) (settings : Settings) (now : Int)

/-- `_emit_order`: stamp the identity and publish. -/
def emitOrder (ev : StraddleOrderEvent) : Effect :=
  .order { ev with clientId := identity.clientId, bindingId := identity.bindingId }

def eventId (kind : EventKind) (counter : Nat) : EventId :=
  { underlying := identity.underlying, kind := kind, counter := counter }

/-- `_apply_sl_cooldown`. -/
def applySlCooldown (book : Book) : Book :=
  let cooldownMin := truncate settings.slCooldownMinutes
  if 0 < cooldownMin then { book with slCooldownUntil := some (now + 60 * cooldownMin) } else book

/-- The order event of a position; the legs and the exit fields vary. -/
def orderEvent (book : Book) (pos : StraddlePosition) (action : Action) (kind : EventKind) :
    StraddleOrderEvent where
  action := action
  underlying := identity.underlying
  atm := pos.atmAtEntry
  ceStrike := pos.ceLeg.strike
  peStrike := pos.peLeg.strike
  ceLtp := pos.ceLeg.ltp
  peLtp := pos.peLeg.ltp
  lotMultiplier := settings.lotMultiplier
  lotSize := settings.lotSize
  spot := book.spot
  eventId := eventId identity kind book.eventCounter

/-- The position that `_open_position` builds. -/
def openedPosition (book : Book) (ceStrike peStrike : Int) (ceLtp peLtp : Rat)
    (ruleKey : String) : StraddlePosition :=
  let openReason := if ruleKey = "entry_rules_beginning" then "beginning" else "reentry"
  { underlying := identity.underlying
    atmAtEntry := roundHalfEven (book.spot / settings.step) * settings.step
    entrySpot := book.spot
    ceLeg := { strike := ceStrike, entryPrice := ceLtp, ltp := ceLtp, openReason := openReason }
    peLeg := { strike := peStrike, entryPrice := peLtp, ltp := peLtp, openReason := openReason }
    netCredit := ceLtp + peLtp
    lotSize := settings.lotSize * settings.lotMultiplier
    entryTimeValue := combinedTimeValue ceStrike peStrike book.spot ceLtp peLtp }

/-- `_open_position`. The snapshot is written before the trade is counted. -/
def openPosition (book : Book) (ceStrike peStrike : Int) (ceLtp peLtp : Rat)
    (ruleKey : String) : Book × List Effect :=
  let pos := openedPosition identity settings book ceStrike peStrike ceLtp peLtp ruleKey
  let opened := { book with position := some pos, eventCounter := book.eventCounter + 1 }
  let newEtv := if pos.entryTimeValue ≠ 0 then pos.entryTimeValue else ceLtp + peLtp
  let counted : Book :=
    { opened with
      tradesToday := book.tradesToday + 1
      orderPending := true
      initialNetCredit :=
        if book.initialNetCredit ≤ 0 then ceLtp + peLtp else book.initialNetCredit
      initialEntryTimeValue := max newEtv book.initialEntryTimeValue }
  (counted, [persist opened,
    emitOrder identity (orderEvent identity settings counted pos .entry .entry)])

/-- `_close_position`. -/
def closePosition (book : Book) (reason : String) : Book × List Effect :=
  match book.position with
  | none => (book, [])
  | some pos =>
      let counted := { book with eventCounter := book.eventCounter + 1 }
      let ev :=
        { orderEvent identity settings counted pos .exit .exit with
          closeReason := reason
          realizedPnl := pos.unrealizedPnl
          ceEntry := pos.ceLeg.entryPrice
          peEntry := pos.peLeg.entryPrice }
      let closed : Book :=
        { counted with
          sessionRealizedPnlPts := book.sessionRealizedPnlPts + pos.unrealizedPnl
          position := none }
      (applySlCooldown settings now closed, [emitOrder identity ev, persist closed])

/-- `_close_leg`: one EXIT order; the position stays. -/
def closeLeg (book : Book) (pos : StraddlePosition) (side : OptType) (reason : String) :
    Book × List Effect :=
  let leg := pos.leg side
  let legPnl := if 0 < leg.entryPrice then leg.entryPrice - leg.ltp else 0
  let counted := { book with eventCounter := book.eventCounter + 1 }
  let ev :=
    { orderEvent identity settings counted pos .exit (.exitLeg side) with
      closeReason := reason
      realizedPnl := legPnl
      ceEntry := pos.ceLeg.entryPrice
      peEntry := pos.peLeg.entryPrice
      legs := [side] }
  ({ counted with sessionRealizedPnlPts := book.sessionRealizedPnlPts + legPnl },
    [emitOrder identity ev])

/-- The position after `_open_leg` replaced one leg. -/
def replacedLeg (pos : StraddlePosition) (side : OptType) (strike : Int) (ltp : Rat)
    (reason : String) : StraddlePosition :=
  let moved := pos.setLeg side
    { pos.leg side with strike := strike, entryPrice := ltp, ltp := ltp, openReason := reason }
  { moved with
    netCredit := moved.ceLeg.entryPrice + moved.peLeg.entryPrice
    tslHighLockRs := 0 }

/-- `_open_leg`: one ENTRY order at the new strike. -/
def openLeg (book : Book) (pos : StraddlePosition) (side : OptType) (strike : Int) (ltp : Rat)
    (reason : String) : Book × List Effect :=
  let moved := replacedLeg pos side strike ltp reason
  let counted := { book with position := some moved, eventCounter := book.eventCounter + 1 }
  (counted, [emitOrder identity
    { orderEvent identity settings counted moved .entry (.openLeg side) with legs := [side] }])

/-- The trackers measured against the new pair after a roll. -/
def rebaseline (book : Book) : Book :=
  match book.position with
  | none => book
  | some pos =>
      let entryTimeValue := pos.currentTimeValue book.spot
      { book with
        position := some
          { pos with
            sessionMinVwap := none
            peakProfit := 0
            tslHighLockRs := 0
            trailingActive := false
            trailPeakPct := 0
            entryTimeValue := entryTimeValue }
        initialEntryTimeValue := max entryTimeValue book.initialEntryTimeValue }

/-- `_single_side_roll`, given what `select_partner_for` chose. A partner at the
same strike sends no order; without a partner both legs are closed. -/
def singleSideRoll (book : Book) (side : OptType) (reason : String)
    (sel : Option (Int × Rat)) : Book × List Effect :=
  match book.position with
  | none => (book, [])
  | some pos =>
      let closed := closeLeg identity settings book pos side reason
      match sel with
      | some (strike, ltp) =>
          if strike = truncate (pos.leg side).strike then (book, [])
          else
            let moved := openLeg identity settings closed.1 pos side strike ltp
              ("single_side_roll_" ++ reason)
            let based := rebaseline moved.1
            (based, closed.2 ++ moved.2 ++ [persist based])
      | none =>
          let both := closeLeg identity settings closed.1 pos side.other
            ("single_side_cleanup_" ++ reason)
          let flat := { both.1 with position := none }
          (applySlCooldown settings now flat, closed.2 ++ both.2 ++ [persist flat])

/-- A leg adopts a positive fill price of an order that lists it. -/
def adoptLeg (fill : StraddleFillEvent) (optType : OptType) (leg : StraddleLeg) : StraddleLeg :=
  if optType ∈ fill.legs ∧ 0 < fill.fill optType then
    { leg with
      ltp := fill.fill optType
      entryPrice := fill.fill optType
      symbol := ((fill.symbol optType).filter (· ≠ "")).getD leg.symbol }
  else leg

/-- The position after an ENTRY confirmation. -/
def adoptFill (fill : StraddleFillEvent) (pos : StraddlePosition) : StraddlePosition :=
  let ceLeg := adoptLeg fill .ce pos.ceLeg
  let peLeg := adoptLeg fill .pe pos.peLeg
  { pos with ceLeg := ceLeg, peLeg := peLeg, netCredit := ceLeg.entryPrice + peLeg.entryPrice }

/-- `_on_fill`. -/
def onFill (book : Book) (fill : StraddleFillEvent) : Book × List Effect :=
  match fill.action with
  | .entry =>
      if fill.entryAborted then
        let discarded : Book :=
          { book with
            position := none
            tradesToday := book.tradesToday - 1
            orderPending := false }
        (applySlCooldown settings now discarded, [persist discarded])
      else
        match book.position with
        | some pos =>
            if pos.status = .open then
              let confirmed := { book with position := some (adoptFill fill pos) }
              ({ confirmed with orderPending := false }, [persist confirmed])
            else ({ book with orderPending := false }, [])
        | none => ({ book with orderPending := false }, [])
  | .exit => ({ book with orderPending := false }, [])

/-- The body of `_fill_loop`: only the underlying is compared. -/
def fillLoop (book : Book) (fill : StraddleFillEvent) : Book × List Effect :=
  if fill.underlying ≠ identity.underlying then (book, []) else onFill settings now book fill

/-- `reset_session`. -/
def resetSession (book : Book) : Book :=
  { book with
    tradesToday := 0
    position := none
    slCooldownUntil := none
    sessionRealizedPnlPts := 0
    initialNetCredit := 0
    initialEntryTimeValue := 0
    stopForDay := false }

/-- The part of `_option_loop` that touches the position. -/
def optionTick (book : Book) (optType : OptType) (strike ltp : Rat) : Book :=
  match book.position with
  | none => book
  | some pos =>
      if pos.status = .open ∧ |strike - (pos.leg optType).strike| < 1 / 100 then
        { book with position := some (pos.setLeg optType { pos.leg optType with ltp := ltp }) }
      else book

/-- What a book may be asked to do. -/
inductive Op where
  | openPosition (ceStrike peStrike : Int) (ceLtp peLtp : Rat) (ruleKey : String)
  | closePosition (reason : String)
  | singleSideRoll (side : OptType) (reason : String) (sel : Option (Int × Rat))
  | fill (ev : StraddleFillEvent)
  | resetSession
  | optionTick (optType : OptType) (strike ltp : Rat)
  | indexTick (ltp : Rat)
deriving DecidableEq

def operate (book : Book) : Op → Book × List Effect
  | .openPosition ceStrike peStrike ceLtp peLtp ruleKey =>
      openPosition identity settings book ceStrike peStrike ceLtp peLtp ruleKey
  | .closePosition reason => closePosition identity settings now book reason
  | .singleSideRoll side reason sel => singleSideRoll identity settings now book side reason sel
  | .fill ev => fillLoop identity settings now book ev
  | .resetSession => (resetSession book, [])
  | .optionTick optType strike ltp => (optionTick book optType strike ltp, [])
  | .indexTick ltp => ({ book with spot := ltp }, [])

end Operations

/-- An operation with the settings and the clock it meets. -/
structure BookEvent where
  settings : Settings
  now : Int
  op : Op
deriving DecidableEq

/-- One step of the book. -/
def bookStep (identity : Identity) (book : Book) (event : BookEvent) : Book :=
  (operate identity event.settings event.now book event.op).1

@[simp] theorem setLeg_status (pos : StraddlePosition) (side : OptType) (leg : StraddleLeg) :
    (pos.setLeg side leg).status = pos.status := by
  cases side <;> rfl

section Cooldown

variable (settings : Settings) (now : Int) (book : Book)

/-- A cooldown moves only its end. -/
theorem applySlCooldown_frame :
    ∃ slCooldownUntil, applySlCooldown settings now book =
      { book with slCooldownUntil := slCooldownUntil } := by
  unfold applySlCooldown
  simp only []
  split
  · exact ⟨_, rfl⟩
  · exact ⟨book.slCooldownUntil, rfl⟩

@[simp] theorem applySlCooldown_position :
    (applySlCooldown settings now book).position = book.position := by
  obtain ⟨_, moved⟩ := applySlCooldown_frame settings now book
  rw [moved]

@[simp] theorem applySlCooldown_tradesToday :
    (applySlCooldown settings now book).tradesToday = book.tradesToday := by
  obtain ⟨_, moved⟩ := applySlCooldown_frame settings now book
  rw [moved]

@[simp] theorem applySlCooldown_orderPending :
    (applySlCooldown settings now book).orderPending = book.orderPending := by
  obtain ⟨_, moved⟩ := applySlCooldown_frame settings now book
  rw [moved]

@[simp] theorem applySlCooldown_sessionRealizedPnlPts :
    (applySlCooldown settings now book).sessionRealizedPnlPts = book.sessionRealizedPnlPts := by
  obtain ⟨_, moved⟩ := applySlCooldown_frame settings now book
  rw [moved]

@[simp] theorem applySlCooldown_stopForDay :
    (applySlCooldown settings now book).stopForDay = book.stopForDay := by
  obtain ⟨_, moved⟩ := applySlCooldown_frame settings now book
  rw [moved]

@[simp] theorem applySlCooldown_eventCounter :
    (applySlCooldown settings now book).eventCounter = book.eventCounter := by
  obtain ⟨_, moved⟩ := applySlCooldown_frame settings now book
  rw [moved]

end Cooldown

section Fills

variable (settings : Settings) (now : Int) (book : Book) {fill : StraddleFillEvent}

/-- The book after an abort. -/
theorem onFill_abort (entry : fill.action = .entry) (aborted : fill.entryAborted = true) :
    (onFill settings now book fill).1 =
      applySlCooldown settings now
        { book with
          position := none
          tradesToday := book.tradesToday - 1
          orderPending := false } := by
  simp only [onFill, entry, aborted, if_true]

/-- The book after the confirmation of an open position. -/
theorem onFill_confirm (entry : fill.action = .entry) (kept : fill.entryAborted = false)
    {pos : StraddlePosition} (held : book.position = some pos) (opened : pos.status = .open) :
    (onFill settings now book fill).1 =
      { book with position := some (adoptFill fill pos), orderPending := false } := by
  simp [onFill, entry, kept, held, opened]

/-- The book after a confirmation that meets no position. -/
theorem onFill_idle (entry : fill.action = .entry) (kept : fill.entryAborted = false)
    (flat : book.position = none) :
    (onFill settings now book fill).1 = { book with orderPending := false } := by
  simp [onFill, entry, kept, flat]

theorem onFill_exit (exit : fill.action = .exit) :
    (onFill settings now book fill).1 = { book with orderPending := false } := by
  simp only [onFill, exit]

end Fills

end OptionChain.StraddleBook
