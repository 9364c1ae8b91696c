import OptionChain.SessionRestart

/-!
# Rolls that send nothing

The decay and the ratio exit ask for a roll and return, whatever became of it. A roll
whose best partner is the strike already held sends no order, so on such a tick the
checks behind it are not made either: the scalable stop, the ROC guardrail, the VWAP rise
and the exit rules. That goes unnoticed exactly where none of them would have sent an
order.
-/

namespace OptionChain.NoopRolls

open Broker Rounding StraddleEvents StraddleBook StraddleExits SessionRestart

/-! ## The search for a partner -/

/-- What a roll asks of its partner. -/
structure Search where
  offset : Int
  ltpTarget : Rat
  maxItmSteps : Int
  rulePass : Int → Int → Bool

/-- A subscribed strike with its premium, in the order of the cache. -/
structure Quoted where
  strike : Int
  side : OptType
  ltp : Rat
deriving DecidableEq

section Partner

variable (search : Search) (step spot : Rat) (side : OptType) (keptStrike : Int) (keptLtp : Rat)

/-- The conditions of `select_partner_for` on a strike. -/
def eligible (quoted : Quoted) : Bool :=
  let atm : Rat := if 0 < spot then roundHalfEven (spot / step) * step else 0
  let itmPts : Rat := match side with
    | .ce => spot - quoted.strike
    | .pe => quoted.strike - spot
  let pair : Int × Int := match side with
    | .ce => (quoted.strike, keptStrike)
    | .pe => (keptStrike, quoted.strike)
  decide (quoted.side = side) &&
    !(decide (atm ≠ 0) && decide (search.offset * step < |quoted.strike - atm|)) &&
    !(decide (0 < spot) && decide (0 < step) && decide (search.maxItmSteps * step < itmPts)) &&
    decide (search.ltpTarget ≤ quoted.ltp) &&
    !(decide (keptLtp ≠ 0) && decide (keptLtp < quoted.ltp)) &&
    search.rulePass pair.1 pair.2

/-- The closer one to the premium that is kept; the earlier one if they are equally close. -/
def closer (best : Option (Int × Rat)) (quoted : Quoted) : Option (Int × Rat) :=
  match best with
  | none => some (quoted.strike, quoted.ltp)
  | some (strike, ltp) =>
      if |quoted.ltp - keptLtp| < |ltp - keptLtp| then some (quoted.strike, quoted.ltp)
      else some (strike, ltp)

/-- `select_partner_for`. -/
def selectPartnerFor (cache : List Quoted) : Option (Int × Rat) :=
  (cache.filter (eligible search step spot side keptStrike keptLtp)).foldl (closer keptLtp) none

end Partner

/-- The partner that a roll of a position finds in the cache. -/
def partnerIn (search : Search) (step spot : Rat) (cache : List Quoted) (pos : StraddlePosition)
    (side : OptType) : Option (Int × Rat) :=
  let kept := pos.leg side.other
  selectPartnerFor search step spot side (truncate kept.strike)
    (if kept.ltp ≠ 0 then kept.ltp else kept.entryPrice) cache

/-! ## What the checks are due to do -/

/-- The two branches that ask for a roll and return. -/
inductive Request where
  | decay
  | ratio
deriving DecidableEq

section Ticks

variable (identity : Identity) (settings : ExitSettings) (clock : Clock) (market : Market)
  (strategy : Strategy) (pos : StraddlePosition)

/-- The roll of a leg sends orders: there is no partner, or it is at another strike. -/
def moves (side : OptType) : Bool :=
  (market.partner side).all (fun partner => decide (partner.1 ≠ truncate (pos.leg side).strike))

/-- The leg that earned more of a skewed pair. -/
def cheap : OptType := if pos.peLeg.ltp < pos.ceLeg.ltp then .pe else .ce

/-- The exit rules close. -/
def rulesDue : Bool :=
  let maxTf := if settings.exitRules then settings.exitRulesTf else 5
  decide (clock.minute % maxTf = 0 ∧ 5 ≤ clock.seconds % 60 ∧
    strategy.lastExitRulesBucket ≠ some (clock.bucket maxTf)) &&
    settings.exitRules && market.rulesPass

/-- The VWAP rise or the exit rules send an order. -/
def vwapDue : Bool :=
  match market.vwap with
  | none => rulesDue settings clock market strategy
  | some (vwap, closing) =>
      if settings.vwapRiseEnabled ∧ takesVwap pos vwap closing ∧
          settings.vwapRiseThreshold ≤ (vwapRise pos vwap).2 then moves market pos (lessBurning pos)
      else rulesDue settings clock market strategy

/-- The ROC guardrail or what is behind it sends an order. -/
def rocDue : Bool :=
  (decide (settings.guardrailRocEnabled ∧
      settings.guardrailRocLength + 1 ≤ market.premCloses.length ∧
      strategy.lastRocGuardBucket ≠ some (clock.bucket settings.guardrailRocTf)) &&
    ((guardrailRoc settings market.premCloses).bind (rocExit settings)).isSome) ||
  vwapDue settings clock market strategy pos

/-- The scalable stop or what is behind it sends an order. -/
def tslDue : Bool :=
  if (scalableTsl settings identity pos strategy.book.spot).2 then
    moves market pos (if pos.ceLeg.ltp ≤ pos.peLeg.ltp then .ce else .pe)
  else rocDue settings clock market strategy pos

/-- What is behind the branch of a request sends an order. -/
def restDue : Request → Bool
  | .decay =>
      if skewed settings pos then moves market pos (cheap pos)
      else tslDue identity settings clock market strategy pos
  | .ratio => tslDue identity settings clock market strategy pos

/-- The rolls of a request send orders. -/
def requestMoves : Request → Bool
  | .decay => (decayed settings pos.ceLeg.ltp && moves market pos .ce) ||
      (decayed settings pos.peLeg.ltp && moves market pos .pe)
  | .ratio => moves market pos (cheap pos)

/-- The branch at which the checks of a tick return, if one of the two is reached. -/
def requested : Option Request :=
  if (verdict settings clock strategy pos).isSome ∨ warm clock strategy = false ∨
      (trailingSl settings pos).2 then none
  else if settings.ltpDecayEnabled ∧
      (decayed settings pos.ceLeg.ltp ∨ decayed settings pos.peLeg.ltp) then some .decay
  else if skewed settings pos then some .ratio
  else none

/-- The position that the branches see, and the strategy that holds it. -/
def trailed : StraddlePosition := (trailingSl settings pos).1

def reached : Strategy := (arm settings clock strategy).setPosition (trailed settings pos)

/-- The rolls of a request. -/
def asked (seen : Strategy) (pos : StraddlePosition) : Request → Strategy × List Effect
  | .decay => rollDecayed identity settings clock market seen pos
  | .ratio => roll identity settings clock market seen (cheap pos) "ratio_exit"

/-- The checks behind the branch of a request. -/
def rest (seen : Strategy) (pos : StraddlePosition) : Request → Strategy × List Effect
  | .decay =>
      if skewed settings pos then
        roll identity settings clock market seen (cheap pos) "ratio_exit"
      else checkTsl identity settings clock market seen pos
  | .ratio => checkTsl identity settings clock market seen pos

/-- A roll that sends nothing leaves the tick to the checks behind it. -/
def NotStarved : Prop :=
  ∀ pos ∈ strategy.book.position, ∀ request ∈ requested settings clock strategy pos,
    (asked identity settings clock market (reached settings clock strategy pos)
      (trailed settings pos) request).2 = [] →
    (checkExits identity settings clock market strategy).2 =
      (rest identity settings clock market (reached settings clock strategy pos)
        (trailed settings pos) request).2

/-- Where the rolls of a branch send nothing, no order is due behind it. -/
def NothingBehind : Prop :=
  ∀ pos ∈ strategy.book.position, ∀ request ∈ requested settings clock strategy pos,
    requestMoves settings market (trailed settings pos) request = false →
    restDue identity settings clock market (reached settings clock strategy pos)
      (trailed settings pos) request = false

instance : Decidable (NotStarved identity settings clock market strategy) :=
  inferInstanceAs (Decidable (∀ pos ∈ _, ∀ request ∈ _, _ → _))

instance : Decidable (NothingBehind identity settings clock market strategy) :=
  inferInstanceAs (Decidable (∀ pos ∈ _, ∀ request ∈ _, _ → _))

end Ticks

/-! ## What a check sends -/

section Silent

variable (identity : Identity) (settings : ExitSettings) (clock : Clock) (market : Market)
  {strategy : Strategy} {pos : StraddlePosition}

theorem close_sends (held : strategy.book.position = some pos) (reason : String) :
    (close identity settings clock strategy reason).2 ≠ [] := by
  simp [close, Strategy.withBook, closePosition, held]

/-- A roll to the strike that is held changes nothing. -/
theorem roll_idle (held : strategy.book.position = some pos) {side : OptType}
    (idle : moves market pos side = false) (reason : String) :
    roll identity settings clock market strategy side reason = (strategy, []) := by
  obtain ⟨⟨strike, ltp⟩, found, same⟩ := (Option.all_eq_false _ _).mp idle
  have there : strike = truncate (pos.leg side).strike := by simpa using same
  simp [roll, Strategy.withBook, singleSideRoll, held, found, there]

/-- Any other roll sends an order. -/
theorem roll_silent (held : strategy.book.position = some pos) (side : OptType)
    (reason : String) :
    (roll identity settings clock market strategy side reason).2 = [] ↔
      moves market pos side = false := by
  constructor
  · intro silent
    by_contra leaving
    rw [Bool.not_eq_false, moves, Option.all_eq_true] at leaving
    simp only [roll, Strategy.withBook, singleSideRoll, held] at silent
    cases found : market.partner side with
    | none => simp [found, closeLeg] at silent
    | some partner =>
      have other : partner.1 ≠ truncate (pos.leg side).strike := by
        simpa using leaving partner found
      simp [found, closeLeg, other] at silent
  · intro idle
    rw [roll_idle identity settings clock market held idle]

/-- Trackers have no part in a roll. -/
theorem moves_congr {other : StraddlePosition} (ce : other.ceLeg = pos.ceLeg)
    (pe : other.peLeg = pos.peLeg) (side : OptType) :
    moves market other side = moves market pos side := by
  have same : other.leg side = pos.leg side := by
    cases side with
    | ce => exact ce
    | pe => exact pe
  rw [moves, moves, same]

theorem rollDecayed_silent (held : strategy.book.position = some pos) :
    (rollDecayed identity settings clock market strategy pos).2 = [] ↔
      requestMoves settings market pos .decay = false := by
  have call := roll_silent identity settings clock market held .ce "ltp_decay_CE"
  have put := roll_silent identity settings clock market held .pe "ltp_decay_PE"
  simp only [rollDecayed, requestMoves, Bool.or_eq_false_iff, Bool.and_eq_false_iff]
  cases callDecayed : decayed settings pos.ceLeg.ltp with
  | false =>
    cases putDecayed : decayed settings pos.peLeg.ltp with
    | false => simp
    | true => simp [held, put]
  | true =>
    cases callMoves : moves market pos .ce with
    | true =>
      have sent := call.not.mpr (by simp [callMoves])
      simp only [if_true]
      split
      · simp [sent]
      · simp [sent]
    | false =>
      have kept := roll_idle identity settings clock market held callMoves "ltp_decay_CE"
      simp only [if_true, kept]
      cases putDecayed : decayed settings pos.peLeg.ltp with
      | false => simp
      | true => simp [held, put]

theorem checkExitRules_silent (held : strategy.book.position = some pos) :
    (checkExitRules identity settings clock market strategy).2 = [] ↔
      rulesDue settings clock market strategy = false := by
  have sent (marked : Strategy) (same : marked.book = strategy.book) :
      (close identity settings clock marked "exit_rules").2 ≠ [] :=
    close_sends identity settings clock (same ▸ held) "exit_rules"
  simp only [checkExitRules, rulesDue]
  generalize (if settings.exitRules = true then settings.exitRulesTf else 5) = maxTf
  by_cases due : clock.minute % maxTf = 0 ∧ 5 ≤ clock.seconds % 60 ∧
      strategy.lastExitRulesBucket ≠ some (clock.bucket maxTf)
  · simp only [if_pos due, decide_eq_true due, Bool.true_and]
    by_cases passes : settings.exitRules = true ∧ market.rulesPass = true
    · rw [if_pos passes, passes.1, passes.2]
      simp [sent]
    · rw [if_neg passes]
      simpa using passes
  · simp only [if_neg due, decide_eq_false due, Bool.false_and]

theorem checkVwapRise_silent (held : strategy.book.position = some pos) :
    (checkVwapRise identity settings clock market strategy pos).2 = [] ↔
      vwapDue settings clock market strategy pos = false := by
  rw [checkVwapRise, vwapDue]
  cases market.vwap with
  | none => exact checkExitRules_silent identity settings clock market held
  | some reading =>
    obtain ⟨vwap, closing⟩ := reading
    dsimp only
    by_cases takes : settings.vwapRiseEnabled = true ∧ takesVwap pos vwap closing = true
    · rw [if_pos takes]
      by_cases risen : settings.vwapRiseThreshold ≤ (vwapRise pos vwap).2
      · have same : moves market (vwapRise pos vwap).1 (lessBurning pos) =
            moves market pos (lessBurning pos) := moves_congr market rfl rfl _
        rw [if_pos risen, if_pos ⟨takes.1, takes.2, risen⟩, ← same]
        exact roll_silent identity settings clock market rfl (lessBurning pos) "vwap_rise_roll"
      · have resting : ¬(settings.vwapRiseEnabled = true ∧ takesVwap pos vwap closing = true ∧
            settings.vwapRiseThreshold ≤ (vwapRise pos vwap).2) := fun all => risen all.2.2
        rw [if_neg risen, if_neg resting]
        exact checkExitRules_silent identity settings clock market rfl
    · have resting : ¬(settings.vwapRiseEnabled = true ∧ takesVwap pos vwap closing = true ∧
          settings.vwapRiseThreshold ≤ (vwapRise pos vwap).2) :=
        fun all => takes ⟨all.1, all.2.1⟩
      rw [if_neg takes, if_neg resting]
      exact checkExitRules_silent identity settings clock market held

theorem checkRoc_silent (held : strategy.book.position = some pos) :
    (checkRoc identity settings clock market strategy pos).2 = [] ↔
      rocDue settings clock market strategy pos = false := by
  simp only [checkRoc, rocDue]
  by_cases due : settings.guardrailRocEnabled = true ∧
      settings.guardrailRocLength + 1 ≤ market.premCloses.length ∧
      strategy.lastRocGuardBucket ≠ some (clock.bucket settings.guardrailRocTf)
  · simp only [if_pos due, decide_eq_true due, Bool.true_and]
    cases (guardrailRoc settings market.premCloses).bind (rocExit settings) with
    | some reason =>
      have sent : (close identity settings clock { strategy with
          lastRocGuardBucket := some (clock.bucket settings.guardrailRocTf) } reason).2 ≠ [] :=
        close_sends identity settings clock held reason
      simpa using sent
    | none =>
      simp only [Option.isSome_none, Bool.false_or]
      have marked : ({ strategy with
          lastRocGuardBucket := some (clock.bucket settings.guardrailRocTf) } :
          Strategy).book.position = some pos := held
      exact checkVwapRise_silent identity settings clock market marked
  · simp only [if_neg due, decide_eq_false due, Bool.false_and, Bool.false_or]
    exact checkVwapRise_silent identity settings clock market held

theorem checkTsl_silent :
    (checkTsl identity settings clock market strategy pos).2 = [] ↔
      tslDue identity settings clock market strategy pos = false := by
  have frame := scalableTsl_frame settings identity pos strategy.book.spot
  simp only [checkTsl, tslDue]
  by_cases hit : (scalableTsl settings identity pos strategy.book.spot).2 = true
  · have same (side : OptType) :
        moves market (scalableTsl settings identity pos strategy.book.spot).1 side =
          moves market pos side := moves_congr market (by rw [frame]) (by rw [frame]) side
    rw [if_pos hit, if_pos hit, ← same]
    exact roll_silent identity settings clock market rfl _ "scalable_tsl"
  · rw [if_neg hit, if_neg hit, checkRoc_silent identity settings clock market rfl, frame]
    rfl

/-- What is behind a branch sends nothing exactly where no order is due there. -/
theorem rest_silent (held : strategy.book.position = some pos) (request : Request) :
    (rest identity settings clock market strategy pos request).2 = [] ↔
      restDue identity settings clock market strategy pos request = false := by
  cases request with
  | decay =>
    rw [rest, restDue]
    split
    · exact roll_silent identity settings clock market held (cheap pos) "ratio_exit"
    · exact checkTsl_silent identity settings clock market
  | ratio => exact checkTsl_silent identity settings clock market

theorem asked_silent (held : strategy.book.position = some pos) (request : Request) :
    (asked identity settings clock market strategy pos request).2 = [] ↔
      requestMoves settings market pos request = false := by
  cases request with
  | decay => exact rollDecayed_silent identity settings clock market held
  | ratio => exact roll_silent identity settings clock market held (cheap pos) "ratio_exit"

/-- A tick that reaches one of the branches returns what the branch asked for. -/
theorem checkExits_requested (held : strategy.book.position = some pos) {request : Request}
    (found : requested settings clock strategy pos = some request) :
    checkExits identity settings clock market strategy =
      asked identity settings clock market (reached settings clock strategy pos)
        (trailed settings pos) request := by
  rw [requested] at found
  split at found
  case isTrue => simp at found
  case isFalse reaches =>
    simp only [not_or, Option.isSome_iff_ne_none, not_not, Bool.not_eq_false] at reaches
    obtain ⟨spared, isWarm, untrailed⟩ := reaches
    have checked : checkExits identity settings clock market strategy =
        checkTrailing identity settings clock market (arm settings clock strategy) pos := by
      rw [checkExits, held]
      simp only [spared, if_pos isWarm]
    rw [checked]
    simp only [checkTrailing, if_neg untrailed]
    by_cases decays : settings.ltpDecayEnabled = true ∧
        (decayed settings pos.ceLeg.ltp = true ∨ decayed settings pos.peLeg.ltp = true)
    · rw [if_pos decays] at found ⊢
      cases found
      rfl
    · rw [if_neg decays] at found ⊢
      by_cases apart : skewed settings pos = true
      · rw [if_pos apart] at found ⊢
        cases found
        have same : cheap (trailed settings pos) = cheap pos := by
          rw [trailed, trailingSl_frame, cheap, cheap]
        rw [asked, same]
        rfl
      · simp [apart] at found

end Silent

/-- The ratio exit at three, and a ROC guardrail that stops at ten percent. -/
def guarded : ExitSettings :=
  { targeted with
    dayProfitTargetPct := 0
    ratioThreshold := 3
    guardrailRocEnabled := true
    guardrailRocTarget := -20
    guardrailRocStoploss := 10 }

/-- The call has risen, the put has fallen, and the cache offers the put's own strike. -/
def skewedPair : StraddlePosition where
  underlying := "NIFTY"
  atmAtEntry := 24000
  entrySpot := 24000
  ceLeg := { strike := 24000, entryPrice := 80, ltp := 150 }
  peLeg := { strike := 24000, entryPrice := 70, ltp := 40 }
  netCredit := 150

def holding : Strategy :=
  { Strategy.fresh with
    book := { Book.fresh with position := some skewedPair, spot := 24100, tradesToday := 1 } }

def sameStrike : Market :=
  { pairOffered with
    partner := partnerIn ⟨4, 30, 2, fun _ _ => true⟩ 50 24100
      [⟨24000, .ce, 150⟩, ⟨24000, .pe, 40⟩, ⟨24050, .pe, 20⟩] skewedPair
    premCloses := [150, 190] }

end OptionChain.NoopRolls
