import OptionChain.StraddleExits

/-!
# What a straddle strategy stores

Two files belong to a book: its open position, and the sums of its session. Both
are written together and stamped MIS, so a file of an earlier date is discarded
when it is read. A file holds what `to_dict` writes and nothing else.

JSON is taken to read back what it wrote; the local date of the store and the
clock of the strategy are one.
-/

namespace OptionChain.StraddleStore

open Broker StraddleEvents StraddleBook StraddleExits

structure LegDict where
  strike : Rat
  entryPrice : Rat
  ltp : Rat
  openReason : String
deriving DecidableEq

structure PositionDict where
  underlying : String
  atmAtEntry : Rat
  entrySpot : Rat
  ceLeg : LegDict
  peLeg : LegDict
  netCredit : Rat
  tslHighLockRs : Rat
  peakProfit : Rat
  trailingActive : Bool
  status : PositionStatus
  lotSize : Int
  entryTimeValue : Rat
deriving DecidableEq

def legToDict (leg : StraddleLeg) : LegDict := ⟨leg.strike, leg.entryPrice, leg.ltp, leg.openReason⟩

def legFromDict (x : LegDict) : StraddleLeg where
  strike := x.strike
  entryPrice := x.entryPrice
  ltp := x.ltp
  openReason := x.openReason

/-- `to_dict`. -/
def toDict (pos : StraddlePosition) : PositionDict where
  underlying := pos.underlying
  atmAtEntry := pos.atmAtEntry
  entrySpot := pos.entrySpot
  ceLeg := legToDict pos.ceLeg
  peLeg := legToDict pos.peLeg
  netCredit := pos.netCredit
  tslHighLockRs := pos.tslHighLockRs
  peakProfit := pos.peakProfit
  trailingActive := pos.trailingActive
  status := pos.status
  lotSize := pos.lotSize
  entryTimeValue := pos.entryTimeValue

/-- `from_dict`: what the dictionary lacks starts anew. -/
def fromDict (d : PositionDict) : StraddlePosition where
  underlying := d.underlying
  atmAtEntry := d.atmAtEntry
  entrySpot := d.entrySpot
  ceLeg := legFromDict d.ceLeg
  peLeg := legFromDict d.peLeg
  netCredit := d.netCredit
  tslHighLockRs := d.tslHighLockRs
  peakProfit := d.peakProfit
  trailingActive := d.trailingActive
  status := d.status
  lotSize := d.lotSize
  entryTimeValue := d.entryTimeValue

/-- What is lost: the symbols of the legs and three trackers. -/
theorem fromDict_toDict (pos : StraddlePosition) :
    fromDict (toDict pos) =
      { pos with
        ceLeg := { pos.ceLeg with symbol := "" }
        peLeg := { pos.peLeg with symbol := "" }
        sessionMinVwap := none
        trailPeakPct := 0
        vwapLastGood := 0 } := rfl

structure SessionDict where
  sessionRealizedPnlPts : Rat
  tradesToday : Nat
  stopForDay : Bool
  sessionDay : Int
deriving DecidableEq

/-- A file with the date of its writing. -/
structure Dated (α : Type) where
  date : Int
  content : α
deriving DecidableEq

structure Store where
  position : Option (Dated PositionDict) := none
  session : Option (Dated SessionDict) := none
deriving DecidableEq

section Files

variable (settings : ExitSettings) (clock : Clock)

/-- `_persist`, at the moment of an effect. -/
def writeFiles (snapshot : Snapshot) : Store where
  position := snapshot.position.map (fun pos => ⟨clock.day, toDict pos⟩)
  session := some ⟨clock.day, ⟨snapshot.sessionRealizedPnlPts, snapshot.tradesToday,
    snapshot.stopForDay, sessionDay settings clock⟩⟩

def write (store : Store) : Effect → Store
  | .order _ => store
  | .persist snapshot => writeFiles settings clock snapshot

/-- `load`: a file of another date is removed. -/
def load {α : Type} (file : Option (Dated α)) : Option (Dated α) :=
  file.filter (fun stored => decide (stored.date = clock.day))

/-- `_restore_session`. -/
def restoreSession (strategy : Strategy) (store : Store) : Strategy :=
  match (load clock store.session).filter
      (fun stored => decide (stored.content.sessionDay = sessionDay settings clock)) with
  | none => strategy
  | some stored =>
      { strategy with
        book := { strategy.book with
          sessionRealizedPnlPts := stored.content.sessionRealizedPnlPts
          tradesToday := max strategy.book.tradesToday stored.content.tradesToday
          stopForDay := stored.content.stopForDay } }

/-- `if not lot_size: …`. -/
def healLots (pos : StraddlePosition) : StraddlePosition :=
  if pos.lotSize = 0 then { pos with lotSize := settings.lotSize * settings.lotMultiplier } else pos

/-- The denominators of the day, from a restored position. -/
def deriveDenominators (book : Book) (pos : StraddlePosition) : Book :=
  let initialNetCredit :=
    if book.initialNetCredit ≤ 0 ∧ 0 < pos.netCredit then pos.netCredit else book.initialNetCredit
  { book with
    initialNetCredit := initialNetCredit
    initialEntryTimeValue :=
      if book.initialEntryTimeValue ≤ 0 then
        if pos.entryTimeValue ≠ 0 then pos.entryTimeValue else initialNetCredit
      else book.initialEntryTimeValue }

/-- The position part of `start`. -/
def restorePosition (strategy : Strategy) (stored : PositionDict) : Strategy :=
  let pos := healLots settings (fromDict stored)
  let counted : Book :=
    { strategy.book with
      position := some pos
      tradesToday := max strategy.book.tradesToday 1 }
  { strategy with
    book := deriveDenominators counted pos
    postRestoreWarmup := true
    postRestoreAt := clock.monotonic
    ceLtpFresh := false
    peLtpFresh := false }

/-- `start` of a strategy, and the files that are left. -/
def start (strategy : Strategy) (store : Store) : Strategy × Store :=
  let restored := restoreSession settings clock strategy store
  let files : Store := ⟨load clock store.position, load clock store.session⟩
  match files.position with
  | none => (restored, files)
  | some stored => (restorePosition settings clock restored stored.content, files)

end Files

/-! ## Runs with restarts -/

/-- A running strategy, its files, and the session day and date of what it handled
last. -/
structure Machine where
  strategy : Strategy
  store : Store
  day : Int
  date : Int
deriving DecidableEq

inductive Handled where
  | candle
  | indexTick (market : Market) (ltp : Rat)
  | optionTick (optType : OptType) (strike ltp : Rat)
  | fill (ev : StraddleFillEvent)
  | squareOff (reason : String)
  | restart

structure StraddleEvent where
  settings : ExitSettings
  clock : Clock
  handled : Handled

/-- The first start of a book. -/
def Machine.fresh (settings : ExitSettings) (clock : Clock) : Machine where
  strategy := .fresh
  store := {}
  day := sessionDay settings clock
  date := clock.day

section Machine

variable (identity : Identity)

/-- One event of a running strategy. -/
def handle (settings : ExitSettings) (clock : Clock) (strategy : Strategy) :
    Handled → Strategy × List Effect
  | .candle => onCandle identity settings clock strategy
  | .indexTick market ltp => indexTick identity settings clock market strategy ltp
  | .optionTick optType strike ltp =>
      (onOptionTick settings strategy optType strike ltp, [])
  | .fill ev => strategy.withBook (fillLoop identity settings.toSettings clock.now strategy.book ev)
  | .squareOff reason => squareOff identity settings clock strategy reason
  | .restart => (strategy, [])

/-- The orders and snapshots of an event. -/
def emitted (machine : Machine) (event : StraddleEvent) : List Effect :=
  (handle identity event.settings event.clock machine.strategy event.handled).2

/-- One event, its snapshots written as they come. A restart builds a new strategy
from the files. -/
def machineStep (machine : Machine) (event : StraddleEvent) : Machine :=
  let started := start event.settings event.clock .fresh machine.store
  let done := handle identity event.settings event.clock machine.strategy event.handled
  let place (strategy : Strategy) (store : Store) : Machine :=
    ⟨strategy, store, sessionDay event.settings event.clock, event.clock.day⟩
  match event.handled with
  | .restart => place started.1 started.2
  | .candle | .indexTick _ _ | .optionTick _ _ _ | .fill _ | .squareOff _ =>
      place done.1 (done.2.foldl (write event.settings event.clock) machine.store)

end Machine

end OptionChain.StraddleStore
