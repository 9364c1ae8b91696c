import OptionChain.StraddleRuns

/-!
# Exits that are switched off

Each exit of the cascade has a switch and parameters in the section of its underlying, nested
or flat, with defaults. A switch that is off makes the parameters idle, because the exit tests
its switch before it looks at them. The ratio exit has no such test: the section has a switch
for it, the summary of the settings shows it, and `_load_thresholds` does not read it.
-/

namespace OptionChain.DisabledExits

open Broker Runs StraddleEvents StraddleBook StraddleExits SessionRestart StraddleRuns

/-! ## The section -/

structure VwapRiseSl where
  enabled : Option Bool := none
  threshold : Option Rat := none
  staleSec : Option Rat := none

structure RatioExit where
  enabled : Option Bool := none
  threshold : Option Rat := none

structure TslScalable where
  enabled : Option Bool := none
  baseProfit : Option Rat := none
  baseLock : Option Rat := none
  stepProfit : Option Rat := none
  stepLock : Option Rat := none
  basis : Option String := none

structure LtpDecay where
  enabled : Option Bool := none
  ltpExitMin : Option Rat := none

structure GuardrailPnl where
  enabled : Option Bool := none
  targetPts : Option Rat := none
  stoplossPts : Option Rat := none

structure GuardrailRoc where
  enabled : Option Bool := none
  tf : Option Int := none
  length : Option Nat := none
  target : Option Rat := none
  stoploss : Option Rat := none

/-- The exit keys of a `sell_straddle` section; a key may be missing. -/
structure StraddleSection where
  tslEnabled : Option Bool := none
  trailLockPct : Option Rat := none
  trailFloorPct : Option Rat := none
  trailBasis : Option String := none
  vwapRiseSl : VwapRiseSl := {}
  vwapRiseSlEnabled : Option Bool := none
  vwapRiseSlThresholdPct : Option Rat := none
  vwapStaleSec : Option Rat := none
  ratioExit : RatioExit := {}
  ratioExitThreshold : Option Rat := none
  tslScalable : TslScalable := {}
  tslScalableEnabled : Option Bool := none
  tslBaseProfitRs : Option Rat := none
  tslBaseLockRs : Option Rat := none
  tslStepProfitRs : Option Rat := none
  tslStepLockRs : Option Rat := none
  tslBasis : Option String := none
  ltpDecay : LtpDecay := {}
  ltpDecayEnabled : Option Bool := none
  ltpExitMin : Option Rat := none
  guardrailPnl : GuardrailPnl := {}
  guardrailRoc : GuardrailRoc := {}

def basisOf (text : String) : Basis := if text.toLower = "theta" then .theta else .ltp

/-- The exits of `_load_thresholds`; what else it loads is in the base. -/
def loadThresholds (base : ExitSettings) (ss : StraddleSection) : ExitSettings :=
  { base with
    trailSlEnabled := ss.tslEnabled.getD true
    trailLockPct := ss.trailLockPct.getD 20 / 100
    trailFloorPct := ss.trailFloorPct.getD 10 / 100
    trailBasis := basisOf (ss.trailBasis.getD "ltp")
    vwapRiseEnabled := (ss.vwapRiseSl.enabled.or ss.vwapRiseSlEnabled).getD false
    vwapRiseThreshold := (ss.vwapRiseSl.threshold.or ss.vwapRiseSlThresholdPct).getD 1
    ratioThreshold := (ss.ratioExit.threshold.or ss.ratioExitThreshold).getD 3
    tslEnabled := (ss.tslScalable.enabled.or ss.tslScalableEnabled).getD false
    tslBaseProfitRs := (ss.tslScalable.baseProfit.or ss.tslBaseProfitRs).getD 1000
    tslBaseLockRs := (ss.tslScalable.baseLock.or ss.tslBaseLockRs).getD 250
    tslStepProfitRs := (ss.tslScalable.stepProfit.or ss.tslStepProfitRs).getD 250
    tslStepLockRs := (ss.tslScalable.stepLock.or ss.tslStepLockRs).getD 250
    tslBasis := basisOf ((ss.tslScalable.basis.or ss.tslBasis).getD "ltp")
    ltpDecayEnabled := (ss.ltpDecay.enabled.or ss.ltpDecayEnabled).getD false
    ltpExitMin := (ss.ltpDecay.ltpExitMin.or ss.ltpExitMin).getD 20
    guardrailPnlEnabled := ss.guardrailPnl.enabled.getD false
    guardrailPnlTargetPts := ss.guardrailPnl.targetPts.getD 0
    guardrailPnlSlPts := ss.guardrailPnl.stoplossPts.getD 0
    guardrailRocEnabled := ss.guardrailRoc.enabled.getD false
    guardrailRocTf := ss.guardrailRoc.tf.getD 15
    guardrailRocLength := ss.guardrailRoc.length.getD 9
    guardrailRocTarget := ss.guardrailRoc.target.getD (-20)
    guardrailRocStoploss := ss.guardrailRoc.stoploss.getD 10 }

/-- The freshness window of the VWAP, longer for illiquid commodities. -/
def vwapStaleSec (underlying : String) (ss : StraddleSection) : Rat :=
  let staleDefault : Rat :=
    if underlying.toUpper ∈ ["CRUDEOIL", "NATURALGAS", "GOLD", "SILVER"] then 150 else 90
  (ss.vwapRiseSl.staleSec.or ss.vwapStaleSec).getD staleDefault

inductive Toggle where
  | guardrailPnl
  | trailingSl
  | ltpDecay
  | ratioExit
  | tslScalable
  | guardrailRoc
  | vwapRiseSl
deriving DecidableEq

/-- The switch of an exit. That of the ratio exit is read by the summary of the settings
only. -/
def enabled (ss : StraddleSection) : Toggle → Bool
  | .guardrailPnl => ss.guardrailPnl.enabled.getD false
  | .trailingSl => ss.tslEnabled.getD true
  | .ltpDecay => (ss.ltpDecay.enabled.or ss.ltpDecayEnabled).getD false
  | .ratioExit => ss.ratioExit.enabled.getD true
  | .tslScalable => (ss.tslScalable.enabled.or ss.tslScalableEnabled).getD false
  | .guardrailRoc => ss.guardrailRoc.enabled.getD false
  | .vwapRiseSl => (ss.vwapRiseSl.enabled.or ss.vwapRiseSlEnabled).getD false

/-- The section with the parameters of an exit, but its switch, taken from another one. -/
def retuned (ss other : StraddleSection) : Toggle → StraddleSection
  | .guardrailPnl =>
      { ss with guardrailPnl := { other.guardrailPnl with enabled := ss.guardrailPnl.enabled } }
  | .trailingSl =>
      { ss with
        trailLockPct := other.trailLockPct
        trailFloorPct := other.trailFloorPct
        trailBasis := other.trailBasis }
  | .ltpDecay =>
      { ss with
        ltpDecay := { other.ltpDecay with enabled := ss.ltpDecay.enabled }
        ltpExitMin := other.ltpExitMin }
  | .ratioExit =>
      { ss with
        ratioExit := { other.ratioExit with enabled := ss.ratioExit.enabled }
        ratioExitThreshold := other.ratioExitThreshold }
  | .tslScalable =>
      { ss with
        tslScalable := { other.tslScalable with enabled := ss.tslScalable.enabled }
        tslBaseProfitRs := other.tslBaseProfitRs
        tslBaseLockRs := other.tslBaseLockRs
        tslStepProfitRs := other.tslStepProfitRs
        tslStepLockRs := other.tslStepLockRs
        tslBasis := other.tslBasis }
  | .guardrailRoc =>
      { ss with guardrailRoc := { other.guardrailRoc with enabled := ss.guardrailRoc.enabled } }
  | .vwapRiseSl =>
      { ss with
        vwapRiseSl := { other.vwapRiseSl with enabled := ss.vwapRiseSl.enabled }
        vwapRiseSlThresholdPct := other.vwapRiseSlThresholdPct
        vwapStaleSec := other.vwapStaleSec }

/-! ## One event under two sections -/

/-- What happens to a book. A tick finds the seconds since either leg was last seen with its
ATP, and what the engine reads for the pair. -/
inductive Happening where
  | candle
  | indexTick (market : Market) (sinceAtp : OptType → Option Rat) (ltp : Rat)
  | optionTick (optType : OptType) (strike ltp : Rat)
  | fill (ev : StraddleFillEvent)
  | squareOff (reason : String)

/-- `pair_atp_fresh`. -/
def pairAtpFresh (sinceAtp : OptType → Option Rat) (maxSec : Rat) : Bool :=
  decide (maxSec ≤ 0) ||
    ((sinceAtp .ce).any (fun since => decide (since ≤ maxSec)) &&
      (sinceAtp .pe).any (fun since => decide (since ≤ maxSec)))

/-- The market as an event with a freshness window finds it. -/
def freshMarket (market : Market) (sinceAtp : OptType → Option Rat) (staleSec : Rat) : Market :=
  { market with vwap := if pairAtpFresh sinceAtp staleSec then market.vwap else none }

def Happening.stimulus (staleSec : Rat) : Happening → Stimulus
  | .candle => .candle
  | .indexTick market sinceAtp ltp => .indexTick (freshMarket market sinceAtp staleSec) ltp
  | .optionTick optType strike ltp => .optionTick optType strike ltp
  | .fill ev => .fill ev
  | .squareOff reason => .squareOff reason

/-- An event, and the sections that two books have loaded when it comes. -/
structure TwinEvent where
  base : ExitSettings
  clock : Clock
  happening : Happening
  left : StraddleSection
  right : StraddleSection

section Twins

variable (identity : Identity)

/-- The event as a book with a section meets it. -/
def TwinEvent.moment (event : TwinEvent) (ss : StraddleSection) : Moment where
  settings := loadThresholds event.base ss
  clock := event.clock
  stimulus := event.happening.stimulus (vwapStaleSec identity.underlying ss)

def twinStep (books : Strategy × Strategy) (event : TwinEvent) : Strategy × Strategy :=
  (strategyStep identity books.1 (event.moment identity event.left),
    strategyStep identity books.2 (event.moment identity event.right))

/-- The exit is off, and the sections differ in nothing but its parameters. -/
def Retuned (exit : Toggle) (event : TwinEvent) : Prop :=
  enabled event.left exit = false ∧ event.right = retuned event.left event.right exit

/-- Both books do the same: the same orders and snapshots, the same position, the same rest. -/
def DoTheSame (books : Strategy × Strategy) (event : TwinEvent) : Prop :=
  respond identity books.1 (event.moment identity event.left) =
    respond identity books.2 (event.moment identity event.right)

end Twins

/-- The checks of a tick get as far as the ratio exit. -/
def reachesRatio (settings : ExitSettings) (clock : Clock) (strategy : Strategy)
    (pos : StraddlePosition) : Bool :=
  (verdict settings clock strategy pos).isNone && warm clock strategy &&
    !(trailingSl settings pos).2 &&
    !(settings.ltpDecayEnabled &&
      (decayed settings pos.ceLeg.ltp || decayed settings pos.peLeg.ltp))

/-- Two ratios decide alike on a tick that gets as far as the ratio exit. -/
def SameRatio (settings other : ExitSettings) (clock : Clock) (strategy : Strategy) : Prop :=
  ∀ pos ∈ strategy.book.position, reachesRatio settings clock strategy pos = true →
    skewed other pos = skewed settings pos

/-- The exit is not the ratio exit, or both ratios decide alike on the event. -/
def Unseen (exit : Toggle) (strategy : Strategy) (event : TwinEvent) : Prop :=
  exit = .ratioExit → match event.happening with
    | .indexTick _ _ ltp =>
        SameRatio (loadThresholds event.base event.left) (loadThresholds event.base event.right)
          event.clock (strategy.see ltp)
    | .candle | .optionTick _ _ _ | .fill _ | .squareOff _ => True

/-! ## Settings that decide alike -/

/-- Settings that decide alike, but for the ratio exit. -/
structure Agree (settings other : ExitSettings) : Prop where
  sizes : other.toSettings = settings.toSettings := by rfl
  trades : other.maxTrades = settings.maxTrades := by rfl
  hours : ∀ clock, isInEntryWindow other clock = isInEntryWindow settings clock := by
    intro clock; rfl
  days : ∀ clock, sessionDay other clock = sessionDay settings clock := by intro clock; rfl
  ends : ∀ clock, pastSquareoff other clock = pastSquareoff settings clock := by intro clock; rfl
  opens : ∀ clock strategy, markOpen other clock strategy = markOpen settings clock strategy := by
    intro clock strategy; rfl
  guardrails : ∀ book pos, guardrails other book pos = guardrails settings book pos := by
    intro book pos; rfl
  trailing : ∀ pos, trailingSl other pos = trailingSl settings pos := by intro pos; rfl
  trailBasis : settings.trailSlEnabled = true → other.trailBasis = settings.trailBasis := by
    intro on; rfl
  decay : other.ltpDecayEnabled = settings.ltpDecayEnabled := by rfl
  decayed : settings.ltpDecayEnabled = true →
    ∀ ltp, decayed other ltp = decayed settings ltp := by intro on ltp; rfl
  tsl : ∀ identity pos spot,
    scalableTsl other identity pos spot = scalableTsl settings identity pos spot := by
      intro identity pos spot; rfl
  roc : other.guardrailRocEnabled = settings.guardrailRocEnabled := by rfl
  rocs : settings.guardrailRocEnabled = true →
    other.guardrailRocTf = settings.guardrailRocTf ∧
      other.guardrailRocLength = settings.guardrailRocLength ∧
      (∀ closes, guardrailRoc other closes = guardrailRoc settings closes) ∧
      rocExit other = rocExit settings := by
    intro on; exact ⟨rfl, rfl, fun _ => rfl, rfl⟩
  vwap : other.vwapRiseEnabled = settings.vwapRiseEnabled := by rfl
  rise : settings.vwapRiseEnabled = true →
    other.vwapRiseThreshold = settings.vwapRiseThreshold := by intro on; rfl
  rules : other.exitRules = settings.exitRules := by rfl
  rulesTf : other.exitRulesTf = settings.exitRulesTf := by rfl

/-- The parameters of an exit that is off do not count, but for the ratio. -/
theorem retuned_agree (base : ExitSettings) (ss other : StraddleSection) {exit : Toggle}
    (off : enabled ss exit = false) :
    Agree (loadThresholds base ss) (loadThresholds base (retuned ss other exit)) := by
  cases exit with
  | guardrailPnl =>
    have off : (loadThresholds base ss).guardrailPnlEnabled = false := off
    have still : (loadThresholds base (retuned ss other .guardrailPnl)).guardrailPnlEnabled =
        false := off
    refine { guardrails := ?_ }
    intro book pos
    simp only [guardrails, off, still]
    rfl
  | trailingSl =>
    have off : (loadThresholds base ss).trailSlEnabled = false := off
    have still : (loadThresholds base (retuned ss other .trailingSl)).trailSlEnabled =
        false := off
    refine { trailing := ?_, trailBasis := ?_ }
    · intro pos
      simp [trailingSl, off, still]
    · intro on
      rw [off] at on
      cases on
  | ltpDecay =>
    have off : (loadThresholds base ss).ltpDecayEnabled = false := off
    refine { decayed := ?_ }
    intro on
    rw [off] at on
    cases on
  | ratioExit => exact {}
  | tslScalable =>
    have off : (loadThresholds base ss).tslEnabled = false := off
    have still : (loadThresholds base (retuned ss other .tslScalable)).tslEnabled = false := off
    refine { tsl := ?_ }
    intro identity pos spot
    simp [scalableTsl, off, still]
  | guardrailRoc =>
    have off : (loadThresholds base ss).guardrailRocEnabled = false := off
    refine { rocs := ?_ }
    intro on
    rw [off] at on
    cases on
  | vwapRiseSl =>
    have off : (loadThresholds base ss).vwapRiseEnabled = false := off
    refine { rise := ?_ }
    intro on
    rw [off] at on
    cases on

/-! ## The cascade under settings that decide alike -/

section Cascade

variable (identity : Identity) (clock : Clock) (market : Market) {settings other : ExitSettings}

theorem close_agree (agree : Agree settings other) (strategy : Strategy) (reason : String) :
    close identity other clock strategy reason = close identity settings clock strategy reason := by
  rw [close, close, agree.sizes]

theorem roll_agree (agree : Agree settings other) (vwap : Option (Rat × Rat)) (strategy : Strategy)
    (side : OptType) (reason : String) :
    roll identity other clock { market with vwap := vwap } strategy side reason =
      roll identity settings clock market strategy side reason := by
  rw [roll, roll, agree.sizes]

theorem checkExitRules_agree (agree : Agree settings other) (vwap : Option (Rat × Rat))
    (strategy : Strategy) :
    checkExitRules identity other clock { market with vwap := vwap } strategy =
      checkExitRules identity settings clock market strategy := by
  simp only [checkExitRules, agree.rules, agree.rulesTf, close_agree identity clock agree]

/-- Without its switch the VWAP rise is passed over. -/
theorem checkVwapRise_off (off : settings.vwapRiseEnabled = false) (strategy : Strategy)
    (pos : StraddlePosition) :
    checkVwapRise identity settings clock market strategy pos =
      checkExitRules identity settings clock market strategy := by
  rw [checkVwapRise]
  cases market.vwap with
  | none => rfl
  | some reading => simp [off]

theorem checkVwapRise_agree (agree : Agree settings other) {vwap : Option (Rat × Rat)}
    (read : settings.vwapRiseEnabled = true → vwap = market.vwap) (strategy : Strategy)
    (pos : StraddlePosition) :
    checkVwapRise identity other clock { market with vwap := vwap } strategy pos =
      checkVwapRise identity settings clock market strategy pos := by
  cases on : settings.vwapRiseEnabled with
  | false =>
    rw [checkVwapRise_off identity clock _ (agree.vwap.trans on),
      checkVwapRise_off identity clock _ on, checkExitRules_agree identity clock market agree]
  | true =>
    have rules (strategy : Strategy) :=
      checkExitRules_agree identity clock market agree market.vwap strategy
    have rolls (strategy : Strategy) (side : OptType) :=
      roll_agree identity clock market agree market.vwap strategy side "vwap_rise_roll"
    rw [read on, checkVwapRise, checkVwapRise]
    simp only [agree.vwap, agree.rise on, rules, rolls]

/-- Without its switch the ROC guardrail is passed over. -/
theorem checkRoc_off (off : settings.guardrailRocEnabled = false) (strategy : Strategy)
    (pos : StraddlePosition) :
    checkRoc identity settings clock market strategy pos =
      checkVwapRise identity settings clock market strategy pos := by
  simp [checkRoc, off]

theorem checkRoc_agree (agree : Agree settings other) {vwap : Option (Rat × Rat)}
    (read : settings.vwapRiseEnabled = true → vwap = market.vwap) (strategy : Strategy)
    (pos : StraddlePosition) :
    checkRoc identity other clock { market with vwap := vwap } strategy pos =
      checkRoc identity settings clock market strategy pos := by
  have rise (strategy : Strategy) :=
    checkVwapRise_agree identity clock market agree read strategy pos
  cases on : settings.guardrailRocEnabled with
  | false =>
    rw [checkRoc_off identity clock _ (agree.roc.trans on), checkRoc_off identity clock _ on, rise]
  | true =>
    obtain ⟨tf, length, roc, exits⟩ := agree.rocs on
    simp only [checkRoc, agree.roc, tf, length, roc, exits, rise,
      close_agree identity clock agree]

theorem checkTsl_agree (agree : Agree settings other) {vwap : Option (Rat × Rat)}
    (read : settings.vwapRiseEnabled = true → vwap = market.vwap) (strategy : Strategy)
    (pos : StraddlePosition) :
    checkTsl identity other clock { market with vwap := vwap } strategy pos =
      checkTsl identity settings clock market strategy pos := by
  simp only [checkTsl, agree.tsl, roll_agree identity clock market agree,
    checkRoc_agree identity clock market agree read]

theorem rollDecayed_agree (agree : Agree settings other) (on : settings.ltpDecayEnabled = true)
    (vwap : Option (Rat × Rat)) (strategy : Strategy) (pos : StraddlePosition) :
    rollDecayed identity other clock { market with vwap := vwap } strategy pos =
      rollDecayed identity settings clock market strategy pos := by
  simp only [rollDecayed, agree.decayed on, roll_agree identity clock market agree]

/-- A stop that is hit is switched on. -/
theorem trailingSl_hit {pos : StraddlePosition} (hit : (trailingSl settings pos).2 = true) :
    settings.trailSlEnabled = true := by
  by_contra off
  simp [trailingSl, off] at hit

theorem checkTrailing_agree (agree : Agree settings other) {vwap : Option (Rat × Rat)}
    (read : settings.vwapRiseEnabled = true → vwap = market.vwap) (strategy : Strategy)
    {pos : StraddlePosition}
    (ratio : (trailingSl settings pos).2 = false →
      (settings.ltpDecayEnabled &&
        (decayed settings pos.ceLeg.ltp || decayed settings pos.peLeg.ltp)) = false →
      skewed other pos = skewed settings pos) :
    checkTrailing identity other clock { market with vwap := vwap } strategy pos =
      checkTrailing identity settings clock market strategy pos := by
  simp only [checkTrailing, agree.trailing]
  by_cases hit : (trailingSl settings pos).2 = true
  · rw [if_pos hit, if_pos hit, agree.trailBasis (trailingSl_hit hit),
      close_agree identity clock agree]
  · rw [if_neg hit, if_neg hit, agree.decay]
    have below : (settings.ltpDecayEnabled = true ∧
        (decayed other pos.ceLeg.ltp = true ∨ decayed other pos.peLeg.ltp = true)) ↔
        settings.ltpDecayEnabled = true ∧
          (decayed settings pos.ceLeg.ltp = true ∨ decayed settings pos.peLeg.ltp = true) := by
      apply and_congr_right
      intro on
      rw [agree.decayed on, agree.decayed on]
    by_cases decays : settings.ltpDecayEnabled = true ∧
        (decayed settings pos.ceLeg.ltp = true ∨ decayed settings pos.peLeg.ltp = true)
    · rw [if_pos (below.mpr decays), if_pos decays,
        rollDecayed_agree identity clock market agree decays.1]
    · have passes : (settings.ltpDecayEnabled &&
          (decayed settings pos.ceLeg.ltp || decayed settings pos.peLeg.ltp)) = false := by
        simpa using decays
      rw [if_neg (mt below.mp decays), if_neg decays, ratio (by simpa using hit) passes,
        roll_agree identity clock market agree, checkTsl_agree identity clock market agree read]

theorem verdict_agree (agree : Agree settings other) (strategy : Strategy)
    (pos : StraddlePosition) :
    verdict other clock strategy pos = verdict settings clock strategy pos := by
  simp only [verdict, agree.ends, agree.guardrails]

theorem enact_agree (agree : Agree settings other) (strategy : Strategy) (found : Verdict) :
    enact identity other clock strategy found = enact identity settings clock strategy found := by
  simp only [enact, close_agree identity clock agree]

theorem arm_agree (agree : Agree settings other) (strategy : Strategy) :
    arm other clock strategy = arm settings clock strategy := by
  rw [arm, arm, agree.ends]

theorem checkExits_agree (agree : Agree settings other) {vwap : Option (Rat × Rat)}
    (read : settings.vwapRiseEnabled = true → vwap = market.vwap) {strategy : Strategy}
    (ratio : SameRatio settings other clock strategy) :
    checkExits identity other clock { market with vwap := vwap } strategy =
      checkExits identity settings clock market strategy := by
  rw [checkExits, checkExits]
  cases held : strategy.book.position with
  | none => rfl
  | some pos =>
    simp only [verdict_agree clock agree, arm_agree clock agree]
    cases found : verdict settings clock strategy pos with
    | some verdict => exact enact_agree identity clock agree _ verdict
    | none =>
      by_cases isWarm : warm clock strategy = true
      · simp only [isWarm, if_true]
        apply checkTrailing_agree identity clock market agree read
        intro unhit passes
        apply ratio pos held
        simp [reachesRatio, found, isWarm, unhit, passes]
      · simp only [if_neg isWarm]

theorem maybeTryEntry_agree (agree : Agree settings other) (vwap : Option (Rat × Rat))
    (strategy : Strategy) :
    maybeTryEntry identity other clock { market with vwap := vwap } strategy =
      maybeTryEntry identity settings clock market strategy := by
  have gates : mayEnter other clock { market with vwap := vwap } strategy =
      mayEnter settings clock market strategy := by
    rw [mayEnter, mayEnter, agree.hours, agree.trades]
  have picks : entryPick other clock { market with vwap := vwap } strategy =
      entryPick settings clock market strategy := by
    rw [entryPick, entryPick, gates]
  rw [maybeTryEntry, maybeTryEntry, picks, agree.sizes]

theorem newSession_agree (agree : Agree settings other) (strategy : Strategy) :
    newSession other clock strategy = newSession settings clock strategy := by
  have days (opened : Clock) : decide (sessionDay other opened ≠ sessionDay other clock) =
      decide (sessionDay settings opened ≠ sessionDay settings clock) := by
    rw [agree.days, agree.days]
  rw [newSession, newSession]
  simp only [days]

theorem onCandle_agree (agree : Agree settings other) (strategy : Strategy) :
    onCandle identity other clock strategy = onCandle identity settings clock strategy := by
  rw [onCandle, onCandle, newSession_agree clock agree, agree.opens, agree.ends,
    close_agree identity clock agree]

end Cascade

/-! ## Two books side by side -/

/-- Only a retuned ratio exit has another ratio. -/
theorem retuned_skewed (base : ExitSettings) (ss other : StraddleSection) {exit : Toggle}
    (others : exit ≠ .ratioExit) (pos : StraddlePosition) :
    skewed (loadThresholds base (retuned ss other exit)) pos =
      skewed (loadThresholds base ss) pos := by
  cases exit with
  | ratioExit => exact absurd rfl others
  | _ => rfl

/-- The freshness window is a parameter of the VWAP rise. -/
theorem retuned_vwap (underlying : String) (ss other : StraddleSection) {exit : Toggle}
    (off : enabled ss exit = false) (on : enabled ss .vwapRiseSl = true) :
    vwapStaleSec underlying (retuned ss other exit) = vwapStaleSec underlying ss := by
  cases exit with
  | vwapRiseSl =>
    rw [on] at off
    cases off
  | _ => rfl

section Runs

variable {identity : Identity} {exit : Toggle}

/-- One event under both sections, where the ratio exit does not tell them apart. -/
theorem respond_twins {strategy : Strategy} {event : TwinEvent} (off : Retuned exit event)
    (unseen : Unseen exit strategy event) : DoTheSame identity (strategy, strategy) event := by
  obtain ⟨base, clock, happening, left, right⟩ := event
  obtain ⟨off, same⟩ := off
  dsimp only at off same
  have agree : Agree (loadThresholds base left) (loadThresholds base right) := by
    rw [same]
    exact retuned_agree base left right off
  cases happening with
  | candle => exact (onCandle_agree identity clock agree strategy).symm
  | indexTick market sinceAtp ltp =>
    have read : (loadThresholds base left).vwapRiseEnabled = true →
        (freshMarket market sinceAtp (vwapStaleSec identity.underlying right)).vwap =
          (freshMarket market sinceAtp (vwapStaleSec identity.underlying left)).vwap := by
      intro on
      rw [same, retuned_vwap identity.underlying left right off on]
    have ratio : SameRatio (loadThresholds base left) (loadThresholds base right) clock
        (strategy.see ltp) := by
      by_cases ratios : exit = .ratioExit
      · exact unseen ratios
      · intro pos _ _
        rw [same]
        exact retuned_skewed base left right ratios pos
    have checks := checkExits_agree identity clock
      (freshMarket market sinceAtp (vwapStaleSec identity.underlying left)) agree read ratio
    have entries := maybeTryEntry_agree identity clock
      (freshMarket market sinceAtp (vwapStaleSec identity.underlying left)) agree
      (freshMarket market sinceAtp (vwapStaleSec identity.underlying right)).vwap
      (strategy.see ltp)
    have ticks : indexTick identity (loadThresholds base right) clock
        (freshMarket market sinceAtp (vwapStaleSec identity.underlying right)) strategy ltp =
      indexTick identity (loadThresholds base left) clock
        (freshMarket market sinceAtp (vwapStaleSec identity.underlying left)) strategy ltp := by
      simp only [indexTick]
      split
      · exact checks
      · exact entries
    exact ticks.symm
  | optionTick optType strike ltp => rfl
  | fill ev => rfl
  | squareOff reason =>
    have closes (halted : Strategy) := close_agree identity clock agree halted reason
    have squares : squareOff identity (loadThresholds base right) clock strategy reason =
        squareOff identity (loadThresholds base left) clock strategy reason := by
      rw [squareOff, squareOff, closes]
    exact squares.symm

/-- The parameters of an exit that is off change nothing, whatever happens: on no event the
order, the position or anything else differs, if the ratio exit does not tell the sections
apart. -/
theorem disabled_exit_inert (identity : Identity) (exit : Toggle) (strategy : Strategy)
    (events : List TwinEvent) (off : ∀ event ∈ events, Retuned exit event)
    (unseen : Along
      (fun strategy event => strategyStep identity strategy (event.moment identity event.left))
      (Unseen exit) strategy events) :
    Along (twinStep identity) (DoTheSame identity) (strategy, strategy) events := by
  induction events generalizing strategy with
  | nil => trivial
  | cons event rest inductionHypothesis =>
    obtain ⟨now, later⟩ := unseen
    have same : DoTheSame identity (strategy, strategy) event :=
      respond_twins (off event List.mem_cons_self) now
    have together : twinStep identity (strategy, strategy) event =
        (strategyStep identity strategy (event.moment identity event.left),
          strategyStep identity strategy (event.moment identity event.left)) := by
      rw [DoTheSame] at same
      rw [twinStep, strategyStep, strategyStep, same]
    refine ⟨same, ?_⟩
    rw [together]
    apply inductionHypothesis _ _ later
    exact fun event listed => off event (List.mem_cons_of_mem _ listed)

end Runs

/-! ## A ratio exit that is off -/

/-- The ratio exit is off, at some threshold. -/
def ratioOff (threshold : Rat) : StraddleSection where
  ratioExit := { enabled := some false, threshold := some threshold }

/-- A pair sold at 150 and 60. -/
def soldApart : Strategy where
  book := (openPosition nifty targeted.toSettings { Book.fresh with spot := 24000 } 24000 24000 150
    60 "entry_rules_beginning").1

/-- A tick under two thresholds. -/
def ratioTick (left right : Rat) : TwinEvent where
  base := { targeted with dayProfitTargetPct := 0 }
  clock := { day := 1, seconds := 36000, monotonic := 36000 }
  happening := .indexTick pairOffered (fun _ => none) 24000
  left := ratioOff left
  right := ratioOff right

/-- Neither threshold is reached. -/
theorem high_ratios_inert :
    Along (twinStep nifty) (DoTheSame nifty) (soldApart, soldApart) [ratioTick 3 4] := by
  apply disabled_exit_inert nifty .ratioExit soldApart [ratioTick 3 4]
  · intro event listed
    obtain rfl := List.mem_singleton.mp listed
    exact ⟨rfl, rfl⟩
  · refine ⟨?_, trivial⟩
    intro _
    change ∀ pos ∈ (soldApart.see 24000).book.position, _
    decide +kernel

/-- A ratio of two and a half closes the pair at the threshold of two: the exit is not off. -/
theorem disabled_ratio_exit_fires :
    Retuned .ratioExit (ratioTick 2 3) ∧
      ¬DoTheSame nifty (soldApart, soldApart) (ratioTick 2 3) := by
  refine ⟨⟨rfl, rfl⟩, ?_⟩
  unfold DoTheSame
  decide +kernel

end OptionChain.DisabledExits
