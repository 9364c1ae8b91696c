import OptionChain.StraddleBook

/-!
# Exits and entries of the straddle strategy

`_check_exits` looks at an open position on every index tick, in a fixed order of
exits; `_try_entry` looks for one where there is none. Both are driven by the book
of `StraddleBook` and by what the strategy object keeps beside it.

What the rule sets pick, the partner of a rolled leg, the premium history and the
readings of the indicator engine come with the tick. Logs and audits are left out.
-/

namespace OptionChain.StraddleExits

open Broker Rounding StraddleEvents StraddleBook

/-- A reading of the clocks: the date, the second of the day, `time.monotonic()`. -/
structure Clock where
  day : Int
  seconds : Int
  monotonic : Rat := 0
deriving DecidableEq

def Clock.now (clock : Clock) : Int := clock.day * 86400 + clock.seconds

def Clock.hour (clock : Clock) : Int := clock.seconds / 3600

def Clock.minute (clock : Clock) : Int := clock.seconds / 60 % 60

/-- The start of a period of some minutes, as the bucket texts name it. -/
structure Bucket where
  day : Int
  hour : Int
  minute : Int
deriving DecidableEq

def Clock.bucket (clock : Clock) (tf : Int) : Bucket :=
  ⟨clock.day, clock.hour, clock.minute / tf * tf⟩

/-- What a percentage is measured in. Any text but "theta" is "ltp". -/
inductive Basis where
  | ltp
  | theta
deriving DecidableEq

/-- The thresholds that an event meets. -/
structure ExitSettings extends Settings where
  isCrypto : Bool
  marketOpenAt : Int
  entryStart : Int
  entryCutoff : Int
  forceExit : Int
  maxTrades : Int
  guardrailPnlEnabled : Bool
  guardrailPnlTargetPts : Rat
  guardrailPnlSlPts : Rat
  dayExitBasis : Basis
  dayProfitTargetPct : Rat
  dayLossSlPct : Rat
  trailSlEnabled : Bool
  trailBasis : Basis
  trailLockPct : Rat
  trailFloorPct : Rat
  ltpDecayEnabled : Bool
  ltpExitMin : Rat
  ratioThreshold : Rat
  tslEnabled : Bool
  tslBasis : Basis
  tslBaseProfitRs : Rat
  tslBaseLockRs : Rat
  tslStepProfitRs : Rat
  tslStepLockRs : Rat
  guardrailRocEnabled : Bool
  guardrailRocTf : Int
  guardrailRocLength : Nat
  guardrailRocTarget : Rat
  guardrailRocStoploss : Rat
  vwapRiseEnabled : Bool
  vwapRiseThreshold : Rat
  exitRules : Bool
  exitRulesTf : Int
deriving DecidableEq

/-- The strategy object: its book, and what it keeps beside it. -/
structure Strategy where
  book : Book
  ceLtp : Rat := 0
  peLtp : Rat := 0
  marketOpenDt : Option Clock := none
  postRestoreWarmup : Bool := false
  postRestoreAt : Rat := 0
  ceLtpFresh : Bool := true
  peLtpFresh : Bool := true
  lastExitRulesBucket : Option Bucket := none
  lastRocGuardBucket : Option Bucket := none
deriving DecidableEq

/-- A strategy as constructed. -/
def Strategy.fresh : Strategy where
  book := .fresh

/-- A pair that a rule set picked. -/
structure Pick where
  ceStrike : Int
  peStrike : Int
  ceLtp : Rat
  peLtp : Rat
  ruleKey : String
deriving DecidableEq

/-- What a tick finds outside the strategy. No reading of the pair's VWAP and close
stands for a stale or missing one. -/
structure Market where
  terminalActive : Bool
  picked : Option Pick
  partner : OptType → Option (Int × Rat)
  premCloses : List Rat
  vwap : Option (Rat × Rat)
  rulesPass : Bool

section Clocks

variable (settings : ExitSettings) (clock : Clock)

/-- `_session_day`. -/
def sessionDay : Int :=
  if settings.isCrypto then
    if settings.entryStart ≤ clock.seconds then clock.day else clock.day - 1
  else clock.day

/-- `_is_in_entry_window`. -/
def isInEntryWindow : Bool :=
  if settings.isCrypto then
    !(decide (settings.entryCutoff ≤ clock.seconds) && decide (clock.seconds < settings.entryStart))
  else decide (settings.entryStart ≤ clock.seconds) && decide (clock.seconds < settings.entryCutoff)

/-- `_past_squareoff`. -/
def pastSquareoff : Bool :=
  if settings.isCrypto then
    decide (settings.forceExit ≤ clock.seconds) && decide (clock.seconds < settings.entryStart)
  else decide (settings.forceExit ≤ clock.seconds)

end Clocks

/-! ## What the exits are decided by -/

/-- `_contract_cv`. -/
def contractCv (underlying : String) : Rat :=
  if underlying.toUpper = "BTC" then 1 / 1000
  else if underlying.toUpper = "ETH" then 1 / 100
  else 1

inductive DayExit where
  | profitTarget
  | lossSl
deriving DecidableEq

section Decisions

variable (settings : ExitSettings)

/-- `_pnl_rs`. -/
def pnlRs (identity : Identity) (pnlPts : Rat) : Rat :=
  pnlPts * (settings.lotSize * settings.lotMultiplier : Int) * contractCv identity.underlying

/-- The points of the day and what they are measured against. -/
def dayMeasure (book : Book) (pos : StraddlePosition) : Rat × Rat :=
  if settings.dayExitBasis = .theta ∧ 0 < book.initialEntryTimeValue then
    (book.sessionRealizedPnlPts +
      (if 0 < pos.entryTimeValue then pos.entryTimeValue - pos.currentTimeValue book.spot
        else pos.unrealizedPnl), book.initialEntryTimeValue)
  else (book.sessionRealizedPnlPts + pos.unrealizedPnl, book.initialNetCredit)

/-- The day-level guardrails. -/
def dayExit (book : Book) (pos : StraddlePosition) : Option DayExit :=
  if 0 < book.initialNetCredit then
    let measure := dayMeasure settings book pos
    let totalDayPct := measure.1 / measure.2 * 100
    if 0 < settings.dayProfitTargetPct ∧ settings.dayProfitTargetPct ≤ totalDayPct then
      some .profitTarget
    else if 0 < settings.dayLossSlPct ∧ totalDayPct ≤ -settings.dayLossSlPct then some .lossSl
    else none
  else none

/-- `premium_decay_pct`. -/
def premiumDecayPct (pos : StraddlePosition) : Rat :=
  let base := if pos.entryTimeValue ≠ 0 then pos.entryTimeValue else pos.netCredit
  if base ≤ 0 then 0 else pos.unrealizedPnl / base * 100

/-- The profit that the trailing stop follows. -/
def profitPct (pos : StraddlePosition) : Option Rat :=
  match settings.trailBasis with
  | .theta => some (premiumDecayPct pos)
  | .ltp => if 0 < pos.netCredit then some (pos.unrealizedPnl / pos.netCredit * 100) else none

/-- The trailing stop: the peak moves, and whether the stop is hit. -/
def trailingSl (pos : StraddlePosition) : StraddlePosition × Bool :=
  if settings.trailSlEnabled then
    match profitPct settings pos with
    | none => (pos, false)
    | some profit =>
        let peak := max pos.trailPeakPct profit
        ({ pos with trailPeakPct := peak },
          decide (settings.trailLockPct * 100 ≤ peak) &&
            decide (profit ≤ peak - settings.trailFloorPct * 100))
  else (pos, false)

/-- `_check_scalable_tsl`. -/
def checkScalableTsl (identity : Identity) (pos : StraddlePosition) (pnlPts : Rat) :
    StraddlePosition × Bool :=
  let scale := settings.lotMultiplier * contractCv identity.underlying
  let baseProfit := settings.tslBaseProfitRs * scale
  let stepProfit := settings.tslStepProfitRs * scale
  let profitRs := pnlRs settings identity pnlPts
  let locked :=
    if baseProfit ≤ profitRs ∧ 0 < stepProfit then
      let calcLock := settings.tslBaseLockRs * scale +
        ((profitRs - baseProfit) / stepProfit).floor * (settings.tslStepLockRs * scale)
      if pos.tslHighLockRs < calcLock then { pos with tslHighLockRs := calcLock } else pos
    else pos
  (locked, decide (0 < locked.tslHighLockRs) && decide (profitRs < locked.tslHighLockRs))

/-- The points that the scalable stop follows. -/
def tslPnl (pos : StraddlePosition) (spot : Rat) : Rat :=
  if settings.tslBasis = .theta ∧ 0 < pos.entryTimeValue then
    pos.entryTimeValue - pos.currentTimeValue spot
  else pos.unrealizedPnl

def scalableTsl (identity : Identity) (pos : StraddlePosition) (spot : Rat) :
    StraddlePosition × Bool :=
  if settings.tslEnabled then checkScalableTsl settings identity pos (tslPnl settings pos spot)
  else (pos, false)

/-- The trailing stop moves its peak and nothing else. -/
theorem trailingSl_frame (pos : StraddlePosition) :
    (trailingSl settings pos).1 =
      { pos with trailPeakPct := (trailingSl settings pos).1.trailPeakPct } := by
  rw [trailingSl]
  split
  · cases profitPct settings pos with
    | none => rfl
    | some profit => rfl
  · rfl

/-- The scalable stop moves its lock and nothing else. -/
theorem scalableTsl_frame (identity : Identity) (pos : StraddlePosition) (spot : Rat) :
    (scalableTsl settings identity pos spot).1 =
      { pos with tslHighLockRs := (scalableTsl settings identity pos spot).1.tslHighLockRs } := by
  rw [scalableTsl]
  split
  · simp only [checkScalableTsl]
    split
    · split
      · rfl
      · rfl
    · rfl
  · rfl

end Decisions

/-! ## The exits of an open position -/

/-- The exits that close the whole position before its trailing stops are looked at. -/
inductive Verdict where
  | eodSquareoff
  | guardrailPnlTarget
  | guardrailPnlSl
  | day (exit : DayExit)
deriving DecidableEq

def Verdict.reason : Verdict → String
  | .eodSquareoff => "eod_squareoff"
  | .guardrailPnlTarget => "guardrail_pnl_target"
  | .guardrailPnlSl => "guardrail_pnl_sl"
  | .day .profitTarget => "day_profit_target"
  | .day .lossSl => "day_loss_sl"

/-- The exits that end the day: all but the stop-loss of the P&L guardrail. -/
def Verdict.stopsDay : Verdict → Bool
  | .guardrailPnlSl => false
  | .eodSquareoff | .guardrailPnlTarget | .day _ => true

section Exits

variable (identity : Identity) (settings : ExitSettings) (clock : Clock)

/-- The warm-up after a restart is over. -/
def warm (strategy : Strategy) : Bool :=
  !strategy.postRestoreWarmup || (strategy.ceLtpFresh && strategy.peLtpFresh) ||
    decide (20 < clock.monotonic - strategy.postRestoreAt)

/-- The global and the day-level guardrails. -/
def guardrails (book : Book) (pos : StraddlePosition) : Option Verdict :=
  let sessionPts := book.sessionRealizedPnlPts + pos.unrealizedPnl
  if settings.guardrailPnlEnabled ∧ 0 < settings.guardrailPnlTargetPts ∧
      settings.guardrailPnlTargetPts ≤ sessionPts then some .guardrailPnlTarget
  else if settings.guardrailPnlEnabled ∧ settings.guardrailPnlSlPts ≠ 0 ∧
      sessionPts ≤ settings.guardrailPnlSlPts then some .guardrailPnlSl
  else (dayExit settings book pos).map .day

/-- The first exits of `_check_exits`, in their order. -/
def verdict (strategy : Strategy) (pos : StraddlePosition) : Option Verdict :=
  if pastSquareoff settings clock then some .eodSquareoff
  else if warm clock strategy then guardrails settings strategy.book pos
  else none

def Strategy.withBook (strategy : Strategy) (done : Book × List Effect) :
    Strategy × List Effect :=
  ({ strategy with book := done.1 }, done.2)

def close (strategy : Strategy) (reason : String) : Strategy × List Effect :=
  strategy.withBook (closePosition identity settings.toSettings clock.now strategy.book reason)

/-- A verdict closes the position. The day is ended after the close has saved. -/
def enact (strategy : Strategy) (verdict : Verdict) : Strategy × List Effect :=
  let closed := close identity settings clock strategy verdict.reason
  if verdict.stopsDay then
    ({ closed.1 with book := { closed.1.book with stopForDay := true } }, closed.2)
  else closed

def roll (market : Market) (strategy : Strategy) (side : OptType) (reason : String) :
    Strategy × List Effect :=
  strategy.withBook (singleSideRoll identity settings.toSettings clock.now strategy.book side
    reason (market.partner side))

def decayed (ltp : Rat) : Bool := decide (0 < ltp) && decide (ltp < settings.ltpExitMin)

/-- LTP decay: each decayed leg is rolled, the put only if there still is a position. -/
def rollDecayed (market : Market) (strategy : Strategy) (pos : StraddlePosition) :
    Strategy × List Effect :=
  let first :=
    if decayed settings pos.ceLeg.ltp then
      roll identity settings clock market strategy .ce "ltp_decay_CE"
    else (strategy, [])
  if decayed settings pos.peLeg.ltp ∧ first.1.book.position.isSome then
    let second := roll identity settings clock market first.1 .pe "ltp_decay_PE"
    (second.1, first.2 ++ second.2)
  else first

/-- The legs are too far apart. -/
def skewed (pos : StraddlePosition) : Bool :=
  decide (0 < pos.ceLeg.ltp) && decide (0 < pos.peLeg.ltp) &&
    decide (settings.ratioThreshold ≤
      max pos.ceLeg.ltp pos.peLeg.ltp / min pos.ceLeg.ltp pos.peLeg.ltp)

/-- The ROC of the premium over the guardrail's length. -/
def guardrailRoc (premCloses : List Rat) : Option Rat :=
  let denom := premCloses.getD (premCloses.length - (settings.guardrailRocLength + 1)) 0
  if denom = 0 then none else some ((premCloses.getLastD 0 - denom) / denom * 100)

/-- The reason of a ROC exit. -/
def rocExit (roc : Rat) : Option String :=
  if settings.guardrailRocTarget < 0 ∧ roc ≤ settings.guardrailRocTarget then
    some "guardrail_roc_target"
  else if 0 ≤ settings.guardrailRocStoploss ∧ settings.guardrailRocStoploss ≤ roc then
    some "guardrail_roc_sl"
  else none

/-- A reading that the VWAP rise takes: no dropout, and no corrupted low. -/
def takesVwap (pos : StraddlePosition) (vwap close : Rat) : Bool :=
  decide (0 < vwap) &&
    !(decide (0 < pos.vwapLastGood) && decide (vwap < 4 / 5 * pos.vwapLastGood)) &&
    (decide (close ≤ 0) || decide (3 / 5 * close ≤ vwap))

/-- The session low, and how far the reading is above it in percent. -/
def vwapRise (pos : StraddlePosition) (vwap : Rat) : StraddlePosition × Rat :=
  let low := min vwap (pos.sessionMinVwap.getD vwap)
  ({ pos with vwapLastGood := vwap, sessionMinVwap := some low }, (vwap - low) / low * 100)

/-- The leg that earned more. -/
def lessBurning (pos : StraddlePosition) : OptType :=
  if pos.peLeg.entryPrice - pos.peLeg.ltp ≤ pos.ceLeg.entryPrice - pos.ceLeg.ltp then .ce else .pe

def Strategy.setPosition (strategy : Strategy) (pos : StraddlePosition) : Strategy :=
  { strategy with book := { strategy.book with position := some pos } }

/-- The new low of a roll counts from the pair that it leaves. -/
def forgetLow (strategy : Strategy) : Strategy :=
  { strategy with
    book := { strategy.book with
      position := strategy.book.position.map (fun pos => { pos with sessionMinVwap := none }) } }

/-- The dynamic exit rules, once per period. -/
def checkExitRules (market : Market) (strategy : Strategy) : Strategy × List Effect :=
  let maxTf := if settings.exitRules then settings.exitRulesTf else 5
  let bucket := clock.bucket maxTf
  if clock.minute % maxTf = 0 ∧ 5 ≤ clock.seconds % 60 ∧
      strategy.lastExitRulesBucket ≠ some bucket then
    let marked := { strategy with lastExitRulesBucket := some bucket }
    if settings.exitRules ∧ market.rulesPass then close identity settings clock marked "exit_rules"
    else (marked, [])
  else (strategy, [])

/-- VWAP rise, then the exit rules. -/
def checkVwapRise (market : Market) (strategy : Strategy) (pos : StraddlePosition) :
    Strategy × List Effect :=
  match market.vwap with
  | none => checkExitRules identity settings clock market strategy
  | some (vwap, closing) =>
      if settings.vwapRiseEnabled ∧ takesVwap pos vwap closing then
        let risen := vwapRise pos vwap
        let moved := strategy.setPosition risen.1
        if settings.vwapRiseThreshold ≤ risen.2 then
          let rolled := roll identity settings clock market moved (lessBurning pos) "vwap_rise_roll"
          (forgetLow rolled.1, rolled.2)
        else checkExitRules identity settings clock market moved
      else checkExitRules identity settings clock market strategy

/-- The ROC guardrail, once per period, then what comes after it. -/
def checkRoc (market : Market) (strategy : Strategy) (pos : StraddlePosition) :
    Strategy × List Effect :=
  let bucket := clock.bucket settings.guardrailRocTf
  if settings.guardrailRocEnabled ∧ settings.guardrailRocLength + 1 ≤ market.premCloses.length ∧
      strategy.lastRocGuardBucket ≠ some bucket then
    let marked := { strategy with lastRocGuardBucket := some bucket }
    match (guardrailRoc settings market.premCloses).bind (rocExit settings) with
    | some reason => close identity settings clock marked reason
    | none => checkVwapRise identity settings clock market marked pos
  else checkVwapRise identity settings clock market strategy pos

/-- The scalable stop, then what comes after it. -/
def checkTsl (market : Market) (strategy : Strategy) (pos : StraddlePosition) :
    Strategy × List Effect :=
  let trailed := scalableTsl settings identity pos strategy.book.spot
  let moved := strategy.setPosition trailed.1
  if trailed.2 then
    roll identity settings clock market moved
      (if pos.ceLeg.ltp ≤ pos.peLeg.ltp then .ce else .pe) "scalable_tsl"
  else checkRoc identity settings clock market moved trailed.1

/-- The exits behind the guardrails: the trailing stop, then the rolls. -/
def checkTrailing (market : Market) (strategy : Strategy) (pos : StraddlePosition) :
    Strategy × List Effect :=
  let trailed := trailingSl settings pos
  let moved := strategy.setPosition trailed.1
  if trailed.2 then
    close identity settings clock moved
      (match settings.trailBasis with | .ltp => "trailing_sl_ltp" | .theta => "trailing_sl_theta")
  else if settings.ltpDecayEnabled ∧
      (decayed settings pos.ceLeg.ltp ∨ decayed settings pos.peLeg.ltp) then
    rollDecayed identity settings clock market moved trailed.1
  else if skewed settings pos then
    roll identity settings clock market moved
      (if pos.peLeg.ltp < pos.ceLeg.ltp then .pe else .ce) "ratio_exit"
  else checkTsl identity settings clock market moved trailed.1

/-- The first check past the warm-up ends it. -/
def arm (strategy : Strategy) : Strategy :=
  if !pastSquareoff settings clock && warm clock strategy then
    { strategy with postRestoreWarmup := false }
  else strategy

/-- `_check_exits`. -/
def checkExits (market : Market) (strategy : Strategy) : Strategy × List Effect :=
  match strategy.book.position with
  | none => (strategy, [])
  | some pos =>
      let armed := arm settings clock strategy
      match verdict settings clock strategy pos with
      | some verdict => enact identity settings clock armed verdict
      | none =>
          if warm clock strategy then checkTrailing identity settings clock market armed pos
          else (armed, [])

end Exits

/-! ## Entries -/

section Entries

variable (identity : Identity) (settings : ExitSettings) (clock : Clock)

/-- The gates of `_try_entry`, in their order. -/
def mayEnter (market : Market) (strategy : Strategy) : Bool :=
  !strategy.book.stopForDay && market.terminalActive && isInEntryWindow settings clock &&
    decide ((strategy.book.tradesToday : Int) < settings.maxTrades) &&
    strategy.book.slCooldownUntil.all (fun until_ => decide (until_ ≤ clock.now)) &&
    !strategy.book.orderPending &&
    decide (0 < strategy.book.spot) && decide (0 < strategy.ceLtp) && decide (0 < strategy.peLtp)

/-- The pair that a tick enters with. -/
def entryPick (market : Market) (strategy : Strategy) : Option Pick :=
  if mayEnter settings clock market strategy then market.picked else none

/-- `_maybe_try_entry`, for what the due rule sets pick. -/
def maybeTryEntry (market : Market) (strategy : Strategy) : Strategy × List Effect :=
  match entryPick settings clock market strategy with
  | none => (strategy, [])
  | some pick => strategy.withBook (openPosition identity settings.toSettings strategy.book
      pick.ceStrike pick.peStrike pick.ceLtp pick.peLtp pick.ruleKey)

end Entries

/-! ## What the strategy handles -/

section Handlers

variable (identity : Identity) (settings : ExitSettings) (clock : Clock)

def isPositionOpen (strategy : Strategy) : Bool :=
  strategy.book.position.any (fun pos => decide (pos.status = .open))

def Strategy.see (strategy : Strategy) (ltp : Rat) : Strategy :=
  { strategy with book := { strategy.book with spot := ltp } }

/-- `_tick_loop`. -/
def indexTick (market : Market) (strategy : Strategy) (ltp : Rat) : Strategy × List Effect :=
  let seen := strategy.see ltp
  if isPositionOpen seen then checkExits identity settings clock market seen
  else maybeTryEntry identity settings clock market seen

/-- A new session day is seen by the market-open time of the old one. -/
def newSession (strategy : Strategy) : Bool :=
  strategy.marketOpenDt.any
    (fun opened => decide (sessionDay settings opened ≠ sessionDay settings clock))

/-- `reset_session`. -/
def resetStrategy (strategy : Strategy) : Strategy :=
  { strategy with
    book := resetSession strategy.book
    marketOpenDt := none
    lastExitRulesBucket := none
    lastRocGuardBucket := none }

/-- The market-open time is set by the first candle of a session. -/
def markOpen (strategy : Strategy) : Strategy :=
  if strategy.marketOpenDt.isNone then
    { strategy with
      marketOpenDt := some
        { clock with
          seconds :=
            if settings.isCrypto then clock.seconds / 60 * 60 else settings.marketOpenAt } }
  else strategy

/-- `_on_candle`, without the indicators. -/
def onCandle (strategy : Strategy) : Strategy × List Effect :=
  let started :=
    markOpen settings clock
      (if newSession settings clock strategy then resetStrategy strategy else strategy)
  if pastSquareoff settings clock ∧ isPositionOpen started then
    close identity settings clock started "time_exit_eod"
  else (started, [])

/-- `_option_loop`: the at-the-money premiums, then the legs of the position. -/
def onOptionTick (strategy : Strategy) (optType : OptType) (strike ltp : Rat) : Strategy :=
  let spot := strategy.book.spot
  let atm : Rat := if 0 < spot then roundHalfEven (spot / settings.step) * settings.step else 0
  let near := decide (0 < atm) && decide (0 < ltp) && decide (|strike - atm| < settings.step / 2)
  let matched := strategy.book.position.any (fun pos =>
    decide (pos.status = .open) && decide (|strike - (pos.leg optType).strike| < 1 / 100))
  { strategy with
    book := optionTick strategy.book optType strike ltp
    ceLtp := if near ∧ optType = .ce then ltp else strategy.ceLtp
    peLtp := if near ∧ optType = .pe then ltp else strategy.peLtp
    ceLtpFresh := strategy.ceLtpFresh || (matched && decide (optType = .ce))
    peLtpFresh := strategy.peLtpFresh || (matched && decide (optType = .pe)) }

/-- `square_off_binding` of the bridge: re-entry is blocked before the close. -/
def squareOff (strategy : Strategy) (reason : String) : Strategy × List Effect :=
  if isPositionOpen strategy then
    close identity settings clock
      { strategy with book := { strategy.book with stopForDay := true } } reason
  else (strategy, [])

end Handlers

end OptionChain.StraddleExits
