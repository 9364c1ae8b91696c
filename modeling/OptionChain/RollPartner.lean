import Mathlib.Data.List.MinMax
import OptionChain.BookMoves
import OptionChain.NoopRolls

/-!
# The partner of a roll

A roll keeps one leg and sells the other side again. Five tests say which strikes of that
side suit the leg that is kept, and the first of those closest to its premium is taken. A
taken strike that is the current one sends no order; where none suits, both legs are closed.
-/

namespace OptionChain.RollPartner

open Broker Rounding StraddleEvents StraddleBook OrderStream BookMoves NoopRolls

/-- What a roll reads of the configuration; zero stands for a missing depth or offset. -/
structure RollConfig where
  poolOtmDepth : Int := 0
  poolItmDepth : Int := 0
  vSlopePoolOffset : Int := 0
  reentryOffset : Int := 0
  ltpTarget : Rat := 0
  rollMaxItmSteps : Int := 2

/-- `max(pool_otm_depth, pool_itm_depth) or v_slope_pool_offset or reentry_offset or 4`. -/
def RollConfig.offset (config : RollConfig) : Int :=
  let depth := max config.poolOtmDepth config.poolItmDepth
  if depth ≠ 0 then depth
  else if config.vSlopePoolOffset ≠ 0 then config.vSlopePoolOffset
  else if config.reentryOffset ≠ 0 then config.reentryOffset
  else 4

/-- The search of a roll: its offset, its target, its cap, and the re-entry rules. -/
def RollConfig.search (config : RollConfig) (rulePass : Int → Int → Bool) : Search where
  offset := config.offset
  ltpTarget := if 0 < config.ltpTarget then config.ltpTarget else 50
  maxItmSteps := config.rollMaxItmSteps
  rulePass := rulePass

/-- The strike at the money. -/
def money (step spot : Rat) : Rat := roundHalfEven (spot / step) * step

/-- How far a strike is in the money. -/
def itmPoints (side : OptType) (strike spot : Rat) : Rat :=
  match side with
  | .ce => spot - strike
  | .pe => strike - spot

/-- The rules hold for a leg of one side and a strike of the other. -/
def rulesHold (search : Search) (side : OptType) (strike keptStrike : Int) : Prop :=
  match side with
  | .ce => search.rulePass strike keptStrike = true
  | .pe => search.rulePass keptStrike strike = true

section Search

variable (search : Search) (step spot : Rat) (side : OptType) (keptStrike : Int) (keptLtp : Rat)

/-- A strike within the limits of the book. -/
structure Suits (quoted : Quoted) : Prop where
  sameSide : quoted.side = side
  near : |quoted.strike - money step spot| ≤ search.offset * step
  shallow : itmPoints side quoted.strike spot ≤ search.maxItmSteps * step
  target : search.ltpTarget ≤ quoted.ltp
  belowKept : quoted.ltp ≤ keptLtp
  rules : rulesHold search side quoted.strike keptStrike

/-- A strike of the cache within the limits, and none of them is closer to the leg kept. -/
structure Closest (cache : List Quoted) (quoted : Quoted) : Prop where
  cached : quoted ∈ cache
  suits : Suits search step spot side keptStrike keptLtp quoted
  least : ∀ other ∈ cache, Suits search step spot side keptStrike keptLtp other →
    |quoted.ltp - keptLtp| ≤ |other.ltp - keptLtp|

variable {search step spot side keptStrike keptLtp}

/-- A spot of at least one step has a strike at the money. -/
theorem money_positive (positive : 0 < step) (priced : step ≤ spot) : 0 < money step spot := by
  have one : ((1 : Int) : Rat) ≤ spot / step := by
    rw [Int.cast_one, le_div_iff₀ positive]
    linarith
  have rounded : 1 ≤ roundHalfEven (spot / step) := by
    have mono := roundHalfEven_mono one
    rwa [roundHalfEven_intCast] at mono
  have cast : (0 : Rat) < roundHalfEven (spot / step) := by
    exact_mod_cast Int.lt_of_lt_of_le Int.zero_lt_one rounded
  exact mul_pos cast positive

/-- The tests of the loop are the limits. -/
theorem eligible_iff (positive : 0 < step) (priced : step ≤ spot) (kept : 0 < keptLtp)
    (quoted : Quoted) :
    eligible search step spot side keptStrike keptLtp quoted = true ↔
      Suits search step spot side keptStrike keptLtp quoted := by
  have spotPositive : 0 < spot := lt_of_lt_of_le positive priced
  have atm : money step spot ≠ 0 := (money_positive positive priced).ne'
  have near : (roundHalfEven (spot / step) : Rat) * step = money step spot := rfl
  unfold eligible
  simp only [if_pos spotPositive, near, decide_eq_true spotPositive, decide_eq_true positive,
    decide_eq_true atm, decide_eq_true kept.ne', Bool.true_and, Bool.and_eq_true,
    Bool.not_eq_true', decide_eq_true_eq, decide_eq_false_iff_not, not_lt]
  constructor
  · rintro ⟨⟨⟨⟨⟨same, close⟩, shallow⟩, target⟩, below⟩, rules⟩
    refine ⟨same, close, ?_, target, below, ?_⟩
    · cases side <;> exact shallow
    · cases side <;> exact rules
  · rintro ⟨same, close, shallow, target, below, rules⟩
    refine ⟨⟨⟨⟨⟨same, close⟩, ?_⟩, target⟩, below⟩, ?_⟩
    · cases side <;> exact shallow
    · cases side <;> exact rules

/-- The loop keeps the first of the closest. -/
theorem selectPartnerFor_eq (cache : List Quoted) :
    selectPartnerFor search step spot side keptStrike keptLtp cache =
      (((cache.filter (eligible search step spot side keptStrike keptLtp)).map
        (fun quoted => (quoted.strike, quoted.ltp))).argmin (fun partner => |partner.2 - keptLtp|)
        ) := by
  rw [List.argmin, List.foldl_map, selectPartnerFor]
  congr 1
  funext best quoted
  cases best <;> rfl

variable (positive : 0 < step) (priced : step ≤ spot) (kept : 0 < keptLtp)

include positive priced kept

/-- It finds none exactly where no strike is within the limits. -/
theorem selectPartnerFor_none_iff {cache : List Quoted} :
    selectPartnerFor search step spot side keptStrike keptLtp cache = none ↔
      ∀ quoted ∈ cache, ¬Suits search step spot side keptStrike keptLtp quoted := by
  rw [selectPartnerFor_eq, List.argmin_eq_none, List.map_eq_nil_iff, List.filter_eq_nil_iff]
  simp only [eligible_iff positive priced kept]

/-- What it finds is a closest one. -/
theorem selectPartnerFor_closest {cache : List Quoted} {partner : Int × Rat}
    (found : selectPartnerFor search step spot side keptStrike keptLtp cache = some partner) :
    ∃ quoted, Closest search step spot side keptStrike keptLtp cache quoted ∧
      partner = (quoted.strike, quoted.ltp) := by
  rw [selectPartnerFor_eq] at found
  obtain ⟨quoted, member, same⟩ := List.mem_map.mp (List.argmin_mem found)
  obtain ⟨cached, fits⟩ := List.mem_filter.mp member
  refine ⟨quoted, ⟨cached, (eligible_iff positive priced kept quoted).mp fits, ?_⟩, same.symm⟩
  intro other otherCached suits
  have otherFits := (eligible_iff positive priced kept other).mpr suits
  have offered : (other.strike, other.ltp) ∈
      (cache.filter (eligible search step spot side keptStrike keptLtp)).map
        (fun quoted => (quoted.strike, quoted.ltp)) :=
    List.mem_map_of_mem (List.mem_filter.mpr ⟨otherCached, otherFits⟩)
  have least := List.le_of_mem_argmin offered found
  rwa [← same] at least

end Search

section Roll

variable {identity : Identity} {settings : Settings} {now : Int} {book : Book}
  {pos : StraddlePosition}

/-- A roll to another strike: the EXIT of the leg, and the ENTRY at the partner's strike and
premium. -/
theorem singleSideRoll_sells (held : book.position = some pos) (side : OptType) (reason : String)
    {strike : Int} {ltp : Rat} (far : strike ≠ truncate (pos.leg side).strike) :
    ∃ exit entry, ordersOf (singleSideRoll identity settings now book side reason
        (some (strike, ltp))).2 = [exit, entry] ∧
      exit.action = .exit ∧ entry.action = .entry ∧ entry.legs = [side] ∧
      entry.strike side = strike ∧ entry.ltp side = ltp := by
  obtain ⟨exit, left, leaves⟩ := @closeLeg_exits identity settings book pos side reason
  obtain ⟨entry, entered, enters⟩ := @openLeg_ordered identity settings
    (closeLeg identity settings book pos side reason).1 pos side strike ltp
    ("single_side_roll_" ++ reason)
  rw [singleSideRoll, held]
  simp only [if_neg far]
  refine ⟨exit, entry, ?_, leaves.action, enters.action, enters.legs, ?_, ?_⟩
  · simp only [ordersOf_append, ordersOf_persist, List.append_nil, left, entered]
    rfl
  · rw [enters.strike]
    cases side <;> rfl
  · rw [enters.ltp]
    cases side <;> rfl

theorem singleSideRoll_same (held : book.position = some pos) (side : OptType) (reason : String)
    (ltp : Rat) : (singleSideRoll identity settings now book side reason
      (some (truncate (pos.leg side).strike, ltp))).2 = [] := by
  simp [singleSideRoll, held]

/-- A whole strike is its own `int`. -/
theorem truncate_intCast (n : Int) : truncate (n : Rat) = n := by
  simp [truncate]

/-- The leg's EXIT, and then the EXIT of the one kept. -/
def ClosesBoth (side : OptType) (orders : List StraddleOrderEvent) : Prop :=
  ∃ first second, orders = [first, second] ∧ first.action = .exit ∧ first.legs = [side] ∧
    second.action = .exit ∧ second.legs = [side.other]

/-- What a roll of a side does with the strikes of the cache: whatever it sells is a closest
strike and not the one it leaves; it sends nothing exactly when a closest strike that it
selected is the current one; it closes both legs exactly when no strike is within the limits. -/
structure LawfulRoll (search : Search) (step spot : Rat) (cache : List Quoted)
    (pos : StraddlePosition) (side : OptType) (selected : Option (Int × Rat))
    (orders : List StraddleOrderEvent) : Prop where
  best : ∀ partner ∈ selected, ∃ quoted,
    Closest search step spot side (truncate (pos.leg side.other).strike) (pos.leg side.other).ltp
      cache quoted ∧ partner = (quoted.strike, quoted.ltp)
  sells : ∀ ev ∈ orders, ev.action = .entry → ∃ quoted,
    Closest search step spot side (truncate (pos.leg side.other).strike) (pos.leg side.other).ltp
      cache quoted ∧ ev.legs = [side] ∧ ev.strike side = quoted.strike ∧
      ev.ltp side = quoted.ltp ∧ ev.strike side ≠ (pos.leg side).strike
  idle : orders = [] ↔ ∃ partner ∈ selected, partner.1 = truncate (pos.leg side).strike
  clears : ClosesBoth side orders ↔ ∀ quoted ∈ cache,
    ¬Suits search step spot side (truncate (pos.leg side.other).strike) (pos.leg side.other).ltp
      quoted

section Outcomes

variable {search : Search} {cache : List Quoted} {side : OptType} {quoted : Quoted}

/-- Where no strike suits, both legs are closed. -/
theorem clears_lawful (held : book.position = some pos) (reason : String)
    (unsuited : ∀ quoted ∈ cache, ¬Suits search settings.step book.spot side
      (truncate (pos.leg side.other).strike) (pos.leg side.other).ltp quoted) :
    LawfulRoll search settings.step book.spot cache pos side none
      (ordersOf (singleSideRoll identity settings now book side reason none).2) := by
  obtain ⟨first, second, orders, one, two, _⟩ := @singleSideRoll_clears identity settings now
    book pos held side reason
  rw [orders]
  constructor
  · rintro partner ⟨⟩
  · intro ev placed entry
    rcases List.mem_pair.mp placed with rfl | rfl
    · rw [one.action] at entry
      cases entry
    · rw [two.action] at entry
      cases entry
  · simp
  · exact ⟨fun _ => unsuited,
      fun _ => ⟨first, second, rfl, one.action, one.legs, two.action, two.legs⟩⟩

section Found

variable (closest : Closest search settings.step book.spot side
  (truncate (pos.leg side.other).strike) (pos.leg side.other).ltp cache quoted)

include closest

/-- Orders that do not close both legs are lawful in that where a strike is closest. -/
theorem clears_of_closest {orders : List StraddleOrderEvent} (kept : ¬ClosesBoth side orders) :
    ClosesBoth side orders ↔ ∀ other ∈ cache, ¬Suits search settings.step book.spot side
      (truncate (pos.leg side.other).strike) (pos.leg side.other).ltp other :=
  iff_of_false kept fun nothing => nothing quoted closest.cached closest.suits

/-- Where the current strike is the closest, no order is sent. -/
theorem same_lawful (held : book.position = some pos) (reason : String)
    (same : quoted.strike = truncate (pos.leg side).strike) :
    LawfulRoll search settings.step book.spot cache pos side (some (quoted.strike, quoted.ltp))
      (ordersOf (singleSideRoll identity settings now book side reason
        (some (quoted.strike, quoted.ltp))).2) := by
  rw [same, singleSideRoll_same held]
  constructor
  · rintro partner ⟨⟩
    exact ⟨quoted, closest, by rw [same]⟩
  · rintro ev ⟨⟩
  · simp [ordersOf]
  · apply clears_of_closest closest
    rintro ⟨first, second, impossible, _⟩
    cases impossible

/-- Where another strike is the closest, it is sold. -/
theorem sells_lawful (held : book.position = some pos) (reason : String)
    (far : quoted.strike ≠ truncate (pos.leg side).strike) :
    LawfulRoll search settings.step book.spot cache pos side (some (quoted.strike, quoted.ltp))
      (ordersOf (singleSideRoll identity settings now book side reason
        (some (quoted.strike, quoted.ltp))).2) := by
  obtain ⟨exit, entry, orders, leaves, enters, legs, strike, ltp⟩ :=
    @singleSideRoll_sells identity settings now book pos held side reason quoted.strike
      quoted.ltp far
  rw [orders]
  constructor
  · rintro partner ⟨⟩
    exact ⟨quoted, closest, rfl⟩
  · intro ev placed isEntry
    rcases List.mem_pair.mp placed with rfl | rfl
    · rw [leaves] at isEntry
      cases isEntry
    · refine ⟨quoted, closest, legs, strike, ltp, ?_⟩
      intro again
      rw [strike] at again
      exact far (by rw [← again, truncate_intCast])
  · simp [far]
  · apply clears_of_closest closest
    rintro ⟨first, second, split, _, _, exits, _⟩
    cases split
    rw [enters] at exits
    cases exits

end Found

end Outcomes

/-- Every roll of a position with positive prices, at a spot of at least one step, is lawful. -/
theorem single_side_roll_lawful (held : book.position = some pos)
    (prices : ∀ side, 0 < (pos.leg side).ltp) (positive : 0 < settings.step)
    (priced : settings.step ≤ book.spot) (config : RollConfig) (rulePass : Int → Int → Bool)
    (cache : List Quoted) (side : OptType) (reason : String) :
    let search := config.search rulePass
    let selected := partnerIn search settings.step book.spot cache pos side
    LawfulRoll search settings.step book.spot cache pos side selected
      (ordersOf (singleSideRoll identity settings now book side reason selected).2) := by
  intro search selected
  have kept : 0 < (pos.leg side.other).ltp := prices side.other
  have asked : partnerIn search settings.step book.spot cache pos side =
      selectPartnerFor search settings.step book.spot side
        (truncate (pos.leg side.other).strike) (pos.leg side.other).ltp cache := by
    rw [partnerIn, if_pos kept.ne']
  cases chosen : selected with
  | none =>
    apply clears_lawful held reason
    exact (selectPartnerFor_none_iff positive priced kept).mp (asked.symm.trans chosen)
  | some partner =>
    obtain ⟨quoted, closest, rfl⟩ := selectPartnerFor_closest positive priced kept
      (asked.symm.trans chosen)
    by_cases same : quoted.strike = truncate (pos.leg side).strike
    · exact same_lawful closest held reason same
    · exact sells_lawful closest held reason same

end Roll

/-- The put of the skewed pair, with the call kept at 150. -/
def skewedSelection : Option (Int × Rat) :=
  partnerIn (RollConfig.search { ltpTarget := 30 } fun _ _ => true) 50 24100
    [⟨24000, .pe, 40⟩, ⟨24050, .pe, 60⟩] skewedPair .pe

theorem single_side_roll_of_the_skewed_pair :
    LawfulRoll (RollConfig.search { ltpTarget := 30 } fun _ _ => true) 50 24100
      [⟨24000, .pe, 40⟩, ⟨24050, .pe, 60⟩] skewedPair .pe skewedSelection
      (ordersOf (singleSideRoll ⟨"NIFTY", "c1", "b1"⟩ guarded.toSettings 0 holding.book .pe
        "ratio_exit" skewedSelection).2) := by
  have prices : ∀ side, 0 < (skewedPair.leg side).ltp := by
    intro side
    cases side
    · norm_num [skewedPair, StraddlePosition.leg]
    · norm_num [skewedPair, StraddlePosition.leg]
  have step : guarded.toSettings.step = 50 := rfl
  have spot : holding.book.spot = 24100 := rfl
  exact @single_side_roll_lawful ⟨"NIFTY", "c1", "b1"⟩ guarded.toSettings 0 holding.book skewedPair
    rfl prices (by rw [step]; norm_num) (by rw [step, spot]; norm_num) { ltpTarget := 30 }
    (fun _ _ => true) [⟨24000, .pe, 40⟩, ⟨24050, .pe, 60⟩] .pe "ratio_exit"

end OptionChain.RollPartner
