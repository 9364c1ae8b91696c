import OptionChain.StraddleSelection

/-!
# The beginning pair

The beginning selection measures a leg in three ways: it anchors on the leg at the money
with the smaller time value, holds both legs against a floor on the chosen basis, and
balances on premiums. What it keeps is the first dearest partner of the anchor.
-/

namespace OptionChain.BalancedPair

open Broker Rounding PoolIndicators StraddleSelection

/-- The leg at the money with the smaller time value, the put where they are equal, with a
value that reaches the floor. -/
structure Anchor (pool : Pool) (side : OptType) (ltp : Rat) : Prop where
  cached : ∃ leg other, pool.strikePrem.lookup (atm pool, side) = some leg ∧
    pool.strikePrem.lookup (atm pool, side.other) = some other ∧ leg.ltp = ltp ∧
    match side with
    | .ce => atmValue pool .ce leg < atmValue pool .pe other
    | .pe => atmValue pool .pe leg ≤ atmValue pool .ce other
  floor : floor pool ≤ entryValue pool side (atm pool) ltp

/-- A cached leg within so many steps of the money that reaches the floor and is strictly
cheaper than the anchor. -/
structure Partner (pool : Pool) (side : OptType) (anchorLtp : Rat) (strike : Int) (ltp : Rat) :
    Prop where
  near : ∃ i : Int, |i| ≤ pool.offset ∧ (strike : Rat) = atm pool + i * pool.step
  cached : ∃ leg, pool.strikePrem.lookup (strike, side) = some leg ∧ leg.ltp = ltp
  floor : floor pool ≤ entryValue pool side strike ltp
  cheaper : ltp < anchorLtp

section Partners

variable {pool : Pool} {whole : Int} (step : pool.step = whole)

include step

/-- A step of whole points loses nothing to `int`. -/
theorem strikeAt_eq (i : Int) : strikeAt pool i = atm pool + i * whole := by
  rw [strikeAt, step]
  exact_mod_cast towardZero_intCast (atm pool + i * whole)

theorem mem_strikes_iff {strike : Int} : strike ∈ strikes pool ↔
    ∃ i : Int, |i| ≤ pool.offset ∧ (strike : Rat) = atm pool + i * pool.step := by
  rw [mem_strikes]
  apply exists_congr
  intro i
  apply and_congr_right
  intro _
  rw [strikeAt_eq step, step]
  constructor
  · rintro rfl
    push_cast
    rfl
  · intro equal
    exact_mod_cast equal

/-- What a round of the loop offers is a partner. -/
theorem mem_partners_iff {side : OptType} {anchorLtp ltp : Rat} {strike : Int} :
    (ltp, strike) ∈ (strikes pool).filterMap (partner pool side anchorLtp) ↔
      Partner pool side anchorLtp strike ltp := by
  rw [List.mem_filterMap]
  constructor
  · rintro ⟨s, scanned, offered⟩
    rw [partner] at offered
    cases found : pool.strikePrem.lookup (s, side) with
    | none =>
      rw [found] at offered
      cases offered
    | some leg =>
      rw [found] at offered
      dsimp only at offered
      split at offered
      next fits =>
        cases offered
        exact ⟨(mem_strikes_iff step).mp scanned, ⟨leg, found, rfl⟩, fits.1, fits.2⟩
      next => cases offered
  · rintro ⟨near, ⟨leg, found, rfl⟩, floor, cheaper⟩
    refine ⟨strike, (mem_strikes_iff step).mpr near, ?_⟩
    rw [partner, found]
    exact if_pos ⟨floor, cheaper⟩

omit step

theorem richer_eq : richer = List.argAux (fun b c : Rat × Int => c.1 < b.1) := by
  funext best new
  cases best <;> rfl

/-- The loop keeps the first dearest partner. -/
theorem partnerLoop_eq (side : OptType) (anchorLtp : Rat) :
    partnerLoop pool side anchorLtp =
      ((strikes pool).filterMap (partner pool side anchorLtp)).argmax Prod.fst := by
  rw [List.argmax, List.foldl_filterMap, partnerLoop, richer_eq]
  congr 1
  funext best s
  cases partner pool side anchorLtp s <;> rfl

include step

/-- It finds a partner exactly where there is one, and then a dearest. -/
theorem partnerLoop_isSome {side : OptType} {anchorLtp : Rat} :
    (partnerLoop pool side anchorLtp).isSome = true ↔
      ∃ strike ltp, Partner pool side anchorLtp strike ltp := by
  rw [partnerLoop_eq, Option.isSome_iff_ne_none, Ne, List.argmax_eq_none,
    List.eq_nil_iff_forall_not_mem]
  push Not
  constructor
  · rintro ⟨⟨ltp, strike⟩, found⟩
    exact ⟨strike, ltp, (mem_partners_iff step).mp found⟩
  · rintro ⟨strike, ltp, fits⟩
    exact ⟨(ltp, strike), (mem_partners_iff step).mpr fits⟩

theorem partnerLoop_dearest {side : OptType} {anchorLtp ltp : Rat} {strike : Int}
    (found : partnerLoop pool side anchorLtp = some (ltp, strike)) :
    Partner pool side anchorLtp strike ltp ∧
      ∀ otherStrike otherLtp, Partner pool side anchorLtp otherStrike otherLtp →
        otherLtp ≤ ltp := by
  rw [partnerLoop_eq] at found
  refine ⟨(mem_partners_iff step).mp (List.argmax_mem found), ?_⟩
  intro otherStrike otherLtp fits
  exact List.le_of_mem_argmax ((mem_partners_iff step).mpr fits) found

end Partners

/-- The anchor of two cached legs is the one that the selection takes. -/
theorem anchor_iff {pool : Pool} {ceAtm peAtm : Quote} {side : OptType} {ltp : Rat}
    (ceCached : pool.strikePrem.lookup (atm pool, .ce) = some ceAtm)
    (peCached : pool.strikePrem.lookup (atm pool, .pe) = some peAtm) :
    Anchor pool side ltp ↔ (side, ltp) = anchorLeg pool ceAtm peAtm ∧
      floor pool ≤ entryValue pool side (atm pool) ltp := by
  unfold anchorLeg
  constructor
  · rintro ⟨⟨leg, other, legCached, otherCached, rfl, lower⟩, floor⟩
    refine ⟨?_, floor⟩
    cases side with
    | ce =>
      rw [ceCached] at legCached
      rw [OptType.other, peCached] at otherCached
      cases legCached
      cases otherCached
      rw [if_pos lower]
    | pe =>
      rw [peCached] at legCached
      rw [OptType.other, ceCached] at otherCached
      cases legCached
      cases otherCached
      rw [if_neg (not_lt.mpr lower)]
  · rintro ⟨taken, floor⟩
    refine ⟨?_, floor⟩
    split at taken
    next lower =>
      cases taken
      exact ⟨ceAtm, peAtm, ceCached, peCached, rfl, lower⟩
    next lower =>
      cases taken
      exact ⟨peAtm, ceAtm, peCached, ceCached, rfl, not_lt.mp lower⟩

/-- An anchor has both legs at the money cached. -/
theorem Anchor.both {pool : Pool} {side : OptType} {ltp : Rat} (anchor : Anchor pool side ltp) :
    ∃ ceAtm peAtm, pool.strikePrem.lookup (atm pool, .ce) = some ceAtm ∧
      pool.strikePrem.lookup (atm pool, .pe) = some peAtm := by
  obtain ⟨leg, other, legCached, otherCached, _⟩ := anchor.cached
  cases side with
  | ce => exact ⟨leg, other, legCached, otherCached⟩
  | pe => exact ⟨other, leg, otherCached, legCached⟩

section Chosen

variable {pool : Pool} (priced : ∀ key leg, pool.strikePrem.lookup key = some leg → 0 < leg.ltp)

include priced

/-- With both legs at the money the selection is its loop behind the floor of the anchor. -/
theorem selectBalancedPair_eq {ceAtm peAtm : Quote}
    (ceCached : pool.strikePrem.lookup (atm pool, .ce) = some ceAtm)
    (peCached : pool.strikePrem.lookup (atm pool, .pe) = some peAtm) :
    selectBalancedPair pool =
      let anchor := anchorLeg pool ceAtm peAtm
      if floor pool ≤ entryValue pool anchor.1 (atm pool) anchor.2 then
        (partnerLoop pool anchor.1.other anchor.2).map (anchored pool anchor.1 anchor.2)
      else none := by
  have positive : ¬(ceAtm.ltp ≤ 0 ∨ peAtm.ltp ≤ 0) := by
    rw [not_or, not_le, not_le]
    exact ⟨priced _ _ ceCached, priced _ _ peCached⟩
  rw [selectBalancedPair, ceCached, peCached]
  simp only [if_neg positive]
  split
  next low => rw [if_neg (not_le.mpr low)]
  next high => rw [if_pos (not_lt.mp high)]

/-- A pair is an anchor and what the loop finds for it. -/
theorem selectBalancedPair_some_iff {pair : Pair} :
    selectBalancedPair pool = some pair ↔ ∃ side anchorLtp, Anchor pool side anchorLtp ∧
      (partnerLoop pool side.other anchorLtp).map (anchored pool side anchorLtp) = some pair := by
  constructor
  · intro found
    cases ceCached : pool.strikePrem.lookup (atm pool, .ce) with
    | none => simp [selectBalancedPair, ceCached] at found
    | some ceAtm =>
      cases peCached : pool.strikePrem.lookup (atm pool, .pe) with
      | none => simp [selectBalancedPair, ceCached, peCached] at found
      | some peAtm =>
        rw [selectBalancedPair_eq priced ceCached peCached] at found
        dsimp only at found
        split at found
        next floor =>
          exact ⟨_, _, (anchor_iff ceCached peCached).mpr ⟨rfl, floor⟩, found⟩
        next => cases found
  · rintro ⟨side, anchorLtp, anchor, found⟩
    obtain ⟨ceAtm, peAtm, ceCached, peCached⟩ := anchor.both
    obtain ⟨taken, floor⟩ := (anchor_iff ceCached peCached).mp anchor
    rw [selectBalancedPair_eq priced ceCached peCached]
    dsimp only
    rw [← taken, if_pos floor]
    exact found

end Chosen

/-- With a step of whole points and positive premiums, the selection finds a pair exactly
where there are an anchor and a partner of it, and the pair is the anchor and a partner none
is dearer than. -/
theorem selectBalancedPair_optimal (pool : Pool) {whole : Int} (step : pool.step = whole)
    (priced : ∀ key leg, pool.strikePrem.lookup key = some leg → 0 < leg.ltp) :
    ((selectBalancedPair pool).isSome = true ↔
      ∃ side anchorLtp strike ltp, Anchor pool side anchorLtp ∧
        Partner pool side.other anchorLtp strike ltp) ∧
    ∀ pair, selectBalancedPair pool = some pair →
      ∃ side anchorLtp strike ltp, Anchor pool side anchorLtp ∧
        Partner pool side.other anchorLtp strike ltp ∧
        pair = anchored pool side anchorLtp (ltp, strike) ∧
        ∀ otherStrike otherLtp, Partner pool side.other anchorLtp otherStrike otherLtp →
          otherLtp ≤ ltp := by
  have sound : ∀ pair, selectBalancedPair pool = some pair →
      ∃ side anchorLtp strike ltp, Anchor pool side anchorLtp ∧
        Partner pool side.other anchorLtp strike ltp ∧
        pair = anchored pool side anchorLtp (ltp, strike) ∧
        ∀ otherStrike otherLtp, Partner pool side.other anchorLtp otherStrike otherLtp →
          otherLtp ≤ ltp := by
    intro pair chosen
    obtain ⟨side, anchorLtp, anchor, found⟩ := (selectBalancedPair_some_iff priced).mp chosen
    obtain ⟨⟨ltp, strike⟩, looped, rfl⟩ := Option.map_eq_some_iff.mp found
    obtain ⟨fits, dearest⟩ := partnerLoop_dearest step looped
    exact ⟨side, anchorLtp, strike, ltp, anchor, fits, rfl, dearest⟩
  refine ⟨?_, sound⟩
  constructor
  · intro some
    obtain ⟨pair, chosen⟩ := Option.isSome_iff_exists.mp some
    obtain ⟨side, anchorLtp, strike, ltp, anchor, fits, _⟩ := sound pair chosen
    exact ⟨side, anchorLtp, strike, ltp, anchor, fits⟩
  · rintro ⟨side, anchorLtp, strike, ltp, anchor, fits⟩
    have looped := (partnerLoop_isSome step).mpr ⟨strike, ltp, fits⟩
    obtain ⟨best, found⟩ := Option.isSome_iff_exists.mp looped
    rw [(selectBalancedPair_some_iff priced).mpr
      ⟨side, anchorLtp, anchor, by rw [found, Option.map_some]⟩]
    rfl

/-- Around 100 the put is the anchor, and the call at 150 its partner. -/
def aroundHundred : Pool where
  strikePrem := leg 100 .ce 55 (leg 100 .pe 50 (leg 150 .ce 45 ∅))
  spot := 101
  step := 50
  step_pos := fifty_pos
  offset := 1
  ltpTarget := 30

theorem leg_priced {cache : StrikePrem} {strike : Int} {side : OptType} {ltp : Rat}
    (positive : 0 < ltp)
    (priced : ∀ key quote, cache.lookup key = some quote → 0 < quote.ltp) :
    ∀ key quote, (leg strike side ltp cache).lookup key = some quote → 0 < quote.ltp := by
  intro key quote found
  by_cases same : key = (strike, side)
  · subst same
    rw [leg, AList.lookup_insert] at found
    cases found
    exact positive
  · rw [leg, AList.lookup_insert_ne same] at found
    exact priced key quote found

theorem aroundHundred_atm : atm aroundHundred = 100 := by
  have floor : ⌊(101 / 50 : Rat)⌋ = 2 := by norm_num
  have nearest : roundHalfEven (101 / 50) = 2 := by
    rw [roundHalfEven, show (101 / 50 : Rat).floor = 2 from floor]
    norm_num
  rw [atm, aroundHundred, nearest, show ((2 : Int) : Rat) * 50 = ((100 : Int) : Rat) by norm_num,
    towardZero_intCast]

theorem aroundHundred_priced : ∀ key quote,
    aroundHundred.strikePrem.lookup key = some quote → 0 < quote.ltp := by
  apply leg_priced (by norm_num)
  apply leg_priced (by norm_num)
  apply leg_priced (by norm_num)
  simp

/-- On either basis a leg without intrinsic value reaches the floor. -/
theorem aroundHundred_floor {side : OptType} {strike : Int} {ltp : Rat} (dear : 30 ≤ ltp)
    (outside : stripIntrinsic ltp side strike 101 = ltp) :
    floor aroundHundred ≤ entryValue aroundHundred side strike ltp := by
  have low : floor aroundHundred ≤ 30 := by
    unfold floor
    split <;> norm_num [aroundHundred]
  have high : ltp ≤ entryValue aroundHundred side strike ltp := by
    unfold entryValue legEntryValue
    split
    · rw [show aroundHundred.spot = 101 from rfl, outside]
      exact le_max_right 0 ltp
    · exact le_refl ltp
  exact low.trans (dear.trans high)

theorem aroundHundred_anchor : Anchor aroundHundred .pe 50 := by
  refine ⟨?_, ?_⟩
  · rw [aroundHundred_atm]
    refine ⟨⟨50, 50⟩, ⟨55, 55⟩, rfl, rfl, rfl, ?_⟩
    simp only [atmValue, aroundHundred_atm, stripIntrinsic]
    norm_num [aroundHundred]
  · rw [aroundHundred_atm]
    exact aroundHundred_floor (by norm_num) (by norm_num [stripIntrinsic])

theorem aroundHundred_partner : Partner aroundHundred .ce 50 150 45 := by
  refine ⟨⟨1, ?_, ?_⟩, ?_, ?_, ?_⟩
  · exact le_refl _
  · rw [aroundHundred_atm]
    norm_num [aroundHundred]
  · exact ⟨⟨45, 45⟩, rfl, rfl⟩
  · exact aroundHundred_floor (by norm_num) (by norm_num [stripIntrinsic])
  · norm_num

/-- The selection finds the pair of these two. -/
theorem selectBalancedPair_aroundHundred : (selectBalancedPair aroundHundred).isSome = true :=
  (@selectBalancedPair_optimal aroundHundred 50 rfl aroundHundred_priced).1.mpr
    ⟨.pe, 50, 150, 45, aroundHundred_anchor, aroundHundred_partner⟩

end OptionChain.BalancedPair
