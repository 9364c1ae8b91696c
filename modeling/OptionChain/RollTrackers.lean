import OptionChain.StraddleExits

/-!
# The trackers of a rolled position

A roll replaces one leg and measures the position anew: the session low, the peak, the
locks and the time value are those of a position just opened on the new pair. One tracker
is left out, the last VWAP that the dropout filter took, so the VWAP of the new pair is
compared with that of the old one.

`roll_fresh_iff` says when a rolled position goes on like a fresh one. The profits that
the stops read come with the reading: a kept leg keeps its entry price.
-/

namespace OptionChain.RollTrackers

open Broker StraddleBook StraddleExits

/-- What gates the exits of a position. -/
structure Trackers where
  sessionMinVwap : Option Rat
  vwapLastGood : Rat
  trailPeakPct : Rat
  tslHighLockRs : Rat
  peakProfit : Rat
  trailingActive : Bool
  entryTimeValue : Rat
deriving DecidableEq

def trackers (pos : StraddlePosition) : Trackers where
  sessionMinVwap := pos.sessionMinVwap
  vwapLastGood := pos.vwapLastGood
  trailPeakPct := pos.trailPeakPct
  tslHighLockRs := pos.tslHighLockRs
  peakProfit := pos.peakProfit
  trailingActive := pos.trailingActive
  entryTimeValue := pos.entryTimeValue

/-- A roll of one side to another strike. The kept strike is one of the exchange. -/
structure LegRoll where
  identity : Identity
  settings : Settings
  now : Int
  book : Book
  pos : StraddlePosition
  side : OptType
  reason : String
  strike : Int
  ltp : Rat
  keptStrike : Int
  held : book.position = some pos
  kept : (pos.leg side.other).strike = keptStrike
  moves : strike ≠ truncate (pos.leg side).strike

/-- The book that `_single_side_roll` leaves. -/
def LegRoll.after (roll : LegRoll) : Book :=
  (singleSideRoll roll.identity roll.settings roll.now roll.book roll.side roll.reason
    (some (roll.strike, roll.ltp))).1

/-- A position opened on the new pair at the prices and the spot that the roll finds. -/
def LegRoll.fresh (roll : LegRoll) (ruleKey : String) : StraddlePosition :=
  match roll.side with
  | .ce => openedPosition roll.identity roll.settings roll.after roll.strike roll.keptStrike
      roll.ltp roll.pos.peLeg.ltp ruleKey
  | .pe => openedPosition roll.identity roll.settings roll.after roll.keptStrike roll.strike
      roll.pos.ceLeg.ltp roll.ltp ruleKey

/-! ## The stops, for what they read -/

section Stops

variable (identity : Identity) (settings : ExitSettings)

/-- The trailing stop at a profit. -/
def trailAt (pos : StraddlePosition) (profit : Rat) : StraddlePosition × Bool :=
  let peak := max pos.trailPeakPct profit
  ({ pos with trailPeakPct := peak },
    decide (settings.trailLockPct * 100 ≤ peak) &&
      decide (profit ≤ peak - settings.trailFloorPct * 100))

/-- The trailing stop follows its profit. -/
theorem trailingSl_trailAt (pos : StraddlePosition) :
    trailingSl settings pos =
      if settings.trailSlEnabled then
        match profitPct settings pos with
        | none => (pos, false)
        | some profit => trailAt settings pos profit
      else (pos, false) := rfl

/-- The VWAP rise at a VWAP and a close of the pair. -/
def vwapAt (pos : StraddlePosition) (vwap close : Rat) : StraddlePosition × Bool :=
  if takesVwap pos vwap close then
    let risen := vwapRise pos vwap
    (risen.1, decide (settings.vwapRiseThreshold ≤ risen.2))
  else (pos, false)

inductive Reading where
  | vwap (vwap close : Rat)
  | trailing (profit : Rat)
  | scalable (pnlPts : Rat)
deriving DecidableEq

/-- What a stop does with its reading. -/
def react (pos : StraddlePosition) : Reading → StraddlePosition × Bool
  | .vwap vwap close => vwapAt settings pos vwap close
  | .trailing profit => trailAt settings pos profit
  | .scalable pnlPts => checkScalableTsl settings identity pos pnlPts

/-- Which readings hit. -/
def hits : StraddlePosition → List Reading → List Bool
  | _, [] => []
  | pos, reading :: rest =>
      let reacted := react identity settings pos reading
      reacted.2 :: hits reacted.1 rest

variable {identity settings} {a b : StraddlePosition}

/-- A stop looks at the trackers and at its reading. -/
theorem react_trackers (same : trackers a = trackers b) (reading : Reading) :
    (react identity settings a reading).2 = (react identity settings b reading).2 ∧
      trackers (react identity settings a reading).1 =
        trackers (react identity settings b reading).1 := by
  simp only [trackers, Trackers.mk.injEq] at same ⊢
  obtain ⟨low, good, peak, lock, profit, trailing, time⟩ := same
  cases reading with
  | vwap vwap close =>
    have takes : takesVwap a vwap close = takesVwap b vwap close := by
      rw [takesVwap, takesVwap, good]
    simp only [react, vwapAt, takes]
    split
    · have risen : (vwapRise a vwap).2 = (vwapRise b vwap).2 := by rw [vwapRise, vwapRise, low]
      refine ⟨by rw [risen], ?_⟩
      simp only [vwapRise, low, peak, lock, profit, trailing, time, and_self]
    · exact ⟨rfl, low, good, peak, lock, profit, trailing, time⟩
  | trailing reached =>
    simp only [react, trailAt, low, good, peak, lock, profit, trailing, time, and_self]
  | scalable pnlPts =>
    simp only [react, checkScalableTsl, lock]
    split
    · split
      · exact ⟨rfl, low, good, peak, rfl, profit, trailing, time⟩
      · exact ⟨by rw [lock], low, good, peak, lock, profit, trailing, time⟩
    · exact ⟨by rw [lock], low, good, peak, lock, profit, trailing, time⟩

/-- Positions with the same trackers are hit by the same readings. -/
theorem hits_trackers (same : trackers a = trackers b) (readings : List Reading) :
    hits identity settings a readings = hits identity settings b readings := by
  induction readings generalizing a b with
  | nil => rfl
  | cons reading rest inductionHypothesis =>
    obtain ⟨hit, after⟩ := @react_trackers identity settings a b same reading
    rw [hits, hits, hit, inductionHypothesis after]

end Stops

/-! ## The roll -/

/-- The position that a roll leaves. -/
def LegRoll.rolled (roll : LegRoll) : StraddlePosition :=
  let moved := replacedLeg roll.pos roll.side roll.strike roll.ltp
    ("single_side_roll_" ++ roll.reason)
  { moved with
    sessionMinVwap := none
    peakProfit := 0
    tslHighLockRs := 0
    trailingActive := false
    trailPeakPct := 0
    entryTimeValue := moved.currentTimeValue roll.book.spot }

variable (roll : LegRoll)

theorem LegRoll.after_eq :
    roll.after.position = some roll.rolled ∧ roll.after.spot = roll.book.spot := by
  rw [LegRoll.after, singleSideRoll, roll.held]
  simp only [if_neg roll.moves]
  exact ⟨rfl, rfl⟩

/-- A roll renews every tracker but the last good VWAP. -/
theorem LegRoll.rolled_trackers (ruleKey : String) :
    trackers roll.rolled =
      { trackers (roll.fresh ruleKey) with vwapLastGood := roll.pos.vwapLastGood } := by
  have spot := roll.after_eq.2
  have kept := roll.kept
  have time : roll.rolled.entryTimeValue = (roll.fresh ruleKey).entryTimeValue := by
    rw [LegRoll.fresh]
    cases side : roll.side with
    | ce =>
      rw [side] at kept
      have strike : roll.pos.peLeg.strike = roll.keptStrike := kept
      simp only [LegRoll.rolled, side, replacedLeg, StraddlePosition.setLeg,
        StraddlePosition.currentTimeValue, openedPosition, spot, strike]
    | pe =>
      rw [side] at kept
      have strike : roll.pos.ceLeg.strike = roll.keptStrike := kept
      simp only [LegRoll.rolled, side, replacedLeg, StraddlePosition.setLeg,
        StraddlePosition.currentTimeValue, openedPosition, spot, strike]
  simp only [trackers, time, Trackers.mk.injEq]
  simp only [LegRoll.rolled, LegRoll.fresh, replacedLeg]
  cases roll.side <;> exact ⟨rfl, rfl, rfl, rfl, rfl, rfl, True.intro⟩

theorem LegRoll.fresh_vwap (ruleKey : String) : (roll.fresh ruleKey).vwapLastGood = 0 := by
  rw [LegRoll.fresh]
  cases roll.side <;> rfl

/-- After a roll the trackers are those of a position freshly opened on the new pair, and all
stops go on as for it, exactly if no VWAP had been taken before. -/
theorem roll_fresh_iff (ruleKey : String) :
    (∃ rolled, roll.after.position = some rolled ∧
      trackers rolled = trackers (roll.fresh ruleKey) ∧
      ∀ settings readings, hits roll.identity settings rolled readings =
        hits roll.identity settings (roll.fresh ruleKey) readings) ↔
      roll.pos.vwapLastGood = 0 := by
  constructor
  · rintro ⟨rolled, after, same, -⟩
    rw [roll.after_eq.1] at after
    cases after
    have good := congrArg Trackers.vwapLastGood same
    rw [roll.rolled_trackers ruleKey] at good
    exact good.trans (roll.fresh_vwap ruleKey)
  · intro zero
    have same : trackers roll.rolled = trackers (roll.fresh ruleKey) := by
      rw [roll.rolled_trackers ruleKey, zero, ← roll.fresh_vwap ruleKey]
      rfl
    exact ⟨roll.rolled, roll.after_eq.1, same, fun _ => hits_trackers same⟩

/-- A straddle whose VWAP was last taken at 435. -/
def decayedStraddle : StraddlePosition where
  underlying := "CRUDEOIL"
  atmAtEntry := 6000
  entrySpot := 6000
  ceLeg := { strike := 6000, entryPrice := 220, ltp := 60 }
  peLeg := { strike := 6000, entryPrice := 215, ltp := 160 }
  netCredit := 435
  vwapLastGood := 435

/-- The call is rolled to another strike. -/
def callRoll : LegRoll where
  identity := ⟨"CRUDEOIL", "c1", "b1"⟩
  settings := ⟨50, 100, 1, 0⟩
  now := 0
  book := { Book.fresh with position := some decayedStraddle, spot := 5900 }
  pos := decayedStraddle
  side := .ce
  reason := "ltp_decay_CE"
  strike := 5900
  ltp := 140
  keptStrike := 6000
  held := rfl
  kept := rfl
  moves := by decide

/-- After the roll the VWAP of the new pair is taken for a dropout. -/
theorem callRoll_stale :
    ¬(∃ rolled, callRoll.after.position = some rolled ∧
      trackers rolled = trackers (callRoll.fresh "entry_rules_reentry") ∧
      ∀ settings readings, hits callRoll.identity settings rolled readings =
        hits callRoll.identity settings (callRoll.fresh "entry_rules_reentry") readings) ∧
    takesVwap callRoll.rolled 300 300 = false ∧
    takesVwap (callRoll.fresh "entry_rules_reentry") 300 300 = true := by
  refine ⟨?_, by decide +kernel, by decide +kernel⟩
  rintro ⟨rolled, after, same, -⟩
  rw [callRoll.after_eq.1] at after
  cases after
  have good := congrArg Trackers.vwapLastGood same
  exact absurd good (by decide)

end OptionChain.RollTrackers
