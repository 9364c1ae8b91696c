import Mathlib.Algebra.Order.Field.Rat
import Mathlib.Data.List.MinMax
import OptionChain.PoolIndicators
import OptionChain.Rounding

/-!
# Choosing a pair of strikes

Both selections work on the premium cache and the strikes around the money. The
beginning one keeps the at-the-money leg with the smaller time value and looks for
the richest partner below it, the pool scan takes the most balanced pair that the
rules pass. A loop that keeps the first best candidate is a first minimum of a list
of candidates, and `scanPool_optimal` says what the candidates are.

The trace, which only the log reads, is left out.
-/

namespace OptionChain.StraddleSelection

open Broker Rounding PoolIndicators

/-- `strike_prem`: the last premium and ATP of every cached leg. -/
abbrev StrikePrem := AList (fun _ : Key => Quote)

/-- What a selection is given. -/
structure Pool where
  strikePrem : StrikePrem
  spot : Rat
  step : Rat
  step_pos : 0 < step
  offset : Int
  ltpTarget : Rat
  entryBasis : String := "ltp"
  thetaTarget : Rat := 0

structure Pair where
  ceStrike : Int
  peStrike : Int
  ceLtp : Rat
  peLtp : Rat
deriving DecidableEq

/-- `strip_intrinsic`. -/
def stripIntrinsic (ltp : Rat) (side : OptType) (strike spot : Rat) : Rat :=
  let intrinsic := match side with
    | .ce => max 0 (spot - strike)
    | .pe => max 0 (strike - spot)
  ltp - intrinsic

/-- `leg_entry_value`. -/
def legEntryValue (side : OptType) (strike ltp spot : Rat) (basis : String) : Rat :=
  if basis.toLower = "theta" then max 0 (stripIntrinsic ltp side strike spot) else ltp

section Selection

variable (pool : Pool)

def atm : Int := towardZero (roundHalfEven (pool.spot / pool.step) * pool.step)

/-- `int(atm + i * step)`. -/
def strikeAt (i : Int) : Int := towardZero (atm pool + i * pool.step)

/-- `range(-offset, offset + 1)`. -/
def steps (offset : Int) : List Int :=
  (List.range (2 * offset + 1).toNat).map (fun i : Nat => -offset + i)

def strikes : List Int := (steps pool.offset).map (strikeAt pool)

def basis : String := pool.entryBasis.toLower

/-- `_floor`. -/
def floor : Rat := if basis pool = "theta" then pool.thetaTarget else pool.ltpTarget

/-- The value of a leg that the floor is held against. -/
def entryValue (side : OptType) (strike : Int) (ltp : Rat) : Rat :=
  legEntryValue side strike ltp pool.spot (basis pool)

/-- The time value of a leg at the money. -/
def atmValue (side : OptType) (leg : Quote) : Rat :=
  stripIntrinsic leg.ltp side (atm pool) pool.spot

/-! ## The pool scan -/

structure Scored where
  score : Rat
  pair : Pair

/-- How far the premiums of a pair are apart. -/
def balancedScore (ceLtp peLtp : Rat) : Rat :=
  let denom := ceLtp + peLtp
  if 0 < denom then |ceLtp - peLtp| / denom else 999

/-- The leg that a round of a loop looks at, unless it is skipped. -/
def quoted (side : OptType) (strike : Int) : Option Rat :=
  match pool.strikePrem.lookup (strike, side) with
  | none => none
  | some leg => if leg.ltp ≤ 0 then none else some leg.ltp

/-- The weaker side at the money must have the smaller premium. -/
def outOfBias (ceStronger : Bool) (ceLtp peLtp : Rat) : Bool :=
  if ceStronger then decide (peLtp ≤ ceLtp) else decide (ceLtp ≤ peLtp)

/-- The candidate of an inner round, unless it is skipped. -/
def offered (ceStronger : Bool) (rulePass : Int → Int → Bool) (sCe : Int) (ceLtp : Rat)
    (sPe : Int) : Option Scored :=
  match quoted pool .pe sPe with
  | none => none
  | some peLtp =>
      if entryValue pool .ce sCe ceLtp < floor pool ∨ entryValue pool .pe sPe peLtp < floor pool then
        none
      else if outOfBias ceStronger ceLtp peLtp then none
      else if rulePass sCe sPe = false then none
      else some ⟨balancedScore ceLtp peLtp, sCe, sPe, ceLtp, peLtp⟩

/-- `if best is None or score < best[0]`. -/
def better (best : Option Scored) (new : Scored) : Option Scored :=
  match best with
  | none => some new
  | some old => if new.score < old.score then some new else some old

def innerLoop (ceStronger : Bool) (rulePass : Int → Int → Bool) (sCe : Int) (ceLtp : Rat)
    (best : Option Scored) : Option Scored :=
  (strikes pool).foldl
    (fun best sPe =>
      match offered pool ceStronger rulePass sCe ceLtp sPe with
      | some new => better best new
      | none => best)
    best

def outerLoop (ceStronger : Bool) (rulePass : Int → Int → Bool) : Option Scored :=
  (strikes pool).foldl
    (fun best sCe =>
      match quoted pool .ce sCe with
      | some ceLtp => innerLoop pool ceStronger rulePass sCe ceLtp best
      | none => best)
    none

/-- `scan_pool`. -/
def scanPool (rulePass : Int → Int → Bool) : Option Pair :=
  match pool.strikePrem.lookup (atm pool, .ce), pool.strikePrem.lookup (atm pool, .pe) with
  | some ceAtm, some peAtm =>
      let ceStronger := decide (atmValue pool .pe peAtm < atmValue pool .ce ceAtm)
      (outerLoop pool ceStronger rulePass).map Scored.pair
  | _, _ => none

/-! ## The beginning selection -/

/-- The value of the partner at a strike, unless it is out of band. -/
def partner (side : OptType) (anchorLtp : Rat) (s : Int) : Option (Rat × Int) :=
  match pool.strikePrem.lookup (s, side) with
  | none => none
  | some leg =>
      if floor pool ≤ entryValue pool side s leg.ltp ∧ leg.ltp < anchorLtp then some (leg.ltp, s)
      else none

/-- `if best is None or ltp > best[0]`. -/
def richer (best : Option (Rat × Int)) (new : Rat × Int) : Option (Rat × Int) :=
  match best with
  | none => some new
  | some old => if old.1 < new.1 then some new else some old

def partnerLoop (side : OptType) (anchorLtp : Rat) : Option (Rat × Int) :=
  (strikes pool).foldl
    (fun best s =>
      match partner pool side anchorLtp s with
      | some new => richer best new
      | none => best)
    none

/-- The pair of an anchor and its partner. -/
def anchored (anchorSide : OptType) (anchorLtp : Rat) (found : Rat × Int) : Pair :=
  match anchorSide with
  | .ce => ⟨atm pool, found.2, anchorLtp, found.1⟩
  | .pe => ⟨found.2, atm pool, found.1, anchorLtp⟩

/-- The side with the smaller time value at the money, and its premium. -/
def anchorLeg (ceAtm peAtm : Quote) : OptType × Rat :=
  if atmValue pool .ce ceAtm < atmValue pool .pe peAtm then (.ce, ceAtm.ltp) else (.pe, peAtm.ltp)

/-- `select_balanced_pair`. -/
def selectBalancedPair : Option Pair :=
  match pool.strikePrem.lookup (atm pool, .ce), pool.strikePrem.lookup (atm pool, .pe) with
  | some ceAtm, some peAtm =>
      if ceAtm.ltp ≤ 0 ∨ peAtm.ltp ≤ 0 then none
      else
        let anchor := anchorLeg pool ceAtm peAtm
        if entryValue pool anchor.1 (atm pool) anchor.2 < floor pool then none
        else (partnerLoop pool anchor.1.other anchor.2).map (anchored pool anchor.1 anchor.2)
  | _, _ => none

end Selection

/-! ## The strikes -/

theorem mem_steps {offset i : Int} : i ∈ steps offset ↔ |i| ≤ offset := by
  rw [steps, List.mem_map, abs_le]
  constructor
  · rintro ⟨n, inside, rfl⟩
    rw [List.mem_range] at inside
    omega
  · rintro ⟨low, high⟩
    exact ⟨(i + offset).toNat, List.mem_range.mpr (by omega), by omega⟩

theorem mem_strikes {pool : Pool} {strike : Int} :
    strike ∈ strikes pool ↔ ∃ i : Int, |i| ≤ pool.offset ∧ strike = strikeAt pool i := by
  rw [strikes, List.mem_map]
  constructor
  · rintro ⟨i, inside, rfl⟩
    exact ⟨i, mem_steps.mp inside, rfl⟩
  · rintro ⟨i, inside, rfl⟩
    exact ⟨i, mem_steps.mpr inside, rfl⟩

theorem towardZero_intCast (n : Int) : towardZero (n : Rat) = n := by
  rw [towardZero]
  split
  · exact Rat.floor_intCast n
  · exact Rat.ceil_intCast n

theorem towardZero_mono {x y : Rat} (ordered : x ≤ y) : towardZero x ≤ towardZero y := by
  rw [towardZero, towardZero]
  split
  case isTrue positive =>
    rw [if_pos (positive.trans ordered)]
    exact Rat.floor_monotone ordered
  case isFalse negative =>
    have below : x ≤ 0 := le_of_not_ge negative
    split
    case isTrue positive =>
      have up : x.ceil ≤ 0 := Rat.ceil_le_iff.mpr below
      have down : 0 ≤ y.floor := Rat.le_floor_iff.mpr positive
      exact up.trans down
    case isFalse => exact Rat.ceil_le_iff.mpr (ordered.trans Rat.le_ceil)

/-- The strikes are scanned upwards. -/
theorem strikes_sorted (pool : Pool) : (strikes pool).Pairwise (· ≤ ·) := by
  rw [strikes, List.pairwise_map, steps, List.pairwise_map]
  refine List.pairwise_lt_range.imp fun {i j} before => ?_
  have later : -pool.offset + (i : Int) ≤ -pool.offset + (j : Int) := by omega
  have wider : ((-pool.offset + (i : Int) : Int) : Rat) ≤
      ((-pool.offset + (j : Int) : Int) : Rat) :=
    Int.cast_le.mpr later
  exact towardZero_mono (add_le_add_right (mul_le_mul_of_nonneg_right wider pool.step_pos.le) _)

/-- With a step of whole points the strikes stay within so many steps of the money. -/
theorem strikeAt_within {pool : Pool} {whole i : Int} (step : pool.step = whole)
    (inside : |i| ≤ pool.offset) : |strikeAt pool i - atm pool| ≤ pool.offset * whole := by
  have exact_ : strikeAt pool i = atm pool + i * whole := by
    rw [strikeAt, step]
    exact_mod_cast towardZero_intCast (atm pool + i * whole)
  have positive : 0 < whole := by
    have pos := pool.step_pos
    rw [step] at pos
    exact_mod_cast pos
  rw [exact_, add_sub_cancel_left, abs_mul, abs_of_pos positive]
  exact mul_le_mul_of_nonneg_right inside positive.le

/-! ## The candidates of the scan -/

section Scan

variable (pool : Pool) (ceStronger : Bool) (rulePass : Int → Int → Bool)

/-- The candidates in the order of the scan. -/
def candidates : List Scored :=
  (strikes pool).flatMap fun sCe =>
    match quoted pool .ce sCe with
    | some ceLtp => (strikes pool).filterMap (offered pool ceStronger rulePass sCe ceLtp)
    | none => []

theorem better_eq : better = List.argAux (fun b c : Scored => b.score < c.score) := by
  funext best new
  cases best <;> rfl

/-- The scan keeps the first candidate with the smallest score. -/
theorem outerLoop_eq :
    outerLoop pool ceStronger rulePass =
      (candidates pool ceStronger rulePass).argmin Scored.score := by
  have inner (sCe : Int) (ceLtp : Rat) (best : Option Scored) :
      innerLoop pool ceStronger rulePass sCe ceLtp best =
        ((strikes pool).filterMap (offered pool ceStronger rulePass sCe ceLtp)).foldl
          (List.argAux fun b c : Scored => b.score < c.score) best := by
    rw [List.foldl_filterMap, innerLoop, better_eq]
    congr 1
    funext best sPe
    cases offered pool ceStronger rulePass sCe ceLtp sPe <;> rfl
  rw [List.argmin, candidates, List.foldl_flatMap, outerLoop]
  congr 1
  funext best sCe
  cases quoted pool .ce sCe with
  | none => rfl
  | some ceLtp => exact inner sCe ceLtp best

end Scan

/-- Which side has the smaller premium: the one with the greater time value at the money,
the put where they are equal. -/
def Biased (ceStronger : Bool) (ceLtp peLtp : Rat) : Prop :=
  if ceStronger then ceLtp < peLtp else peLtp < ceLtp

/-- A leg among the strikes with a positive premium that reaches the floor. -/
structure Tradable (pool : Pool) (side : OptType) (strike : Int) (ltp : Rat) : Prop where
  near : ∃ i : Int, |i| ≤ pool.offset ∧ strike = strikeAt pool i
  cached : ∃ leg, pool.strikePrem.lookup (strike, side) = some leg ∧ leg.ltp = ltp
  positive : 0 < ltp
  floor : floor pool ≤ entryValue pool side strike ltp

/-- A pair that the scan may choose. -/
structure Admissible (pool : Pool) (ceStronger : Bool) (rulePass : Int → Int → Bool)
    (pair : Pair) : Prop where
  ce : Tradable pool .ce pair.ceStrike pair.ceLtp
  pe : Tradable pool .pe pair.peStrike pair.peLtp
  bias : Biased ceStronger pair.ceLtp pair.peLtp
  rules : rulePass pair.ceStrike pair.peStrike = true

theorem quoted_iff {pool : Pool} {side : OptType} {strike : Int} {ltp : Rat} :
    quoted pool side strike = some ltp ↔
      (∃ leg, pool.strikePrem.lookup (strike, side) = some leg ∧ leg.ltp = ltp) ∧ 0 < ltp := by
  rw [quoted]
  cases pool.strikePrem.lookup (strike, side) with
  | none => simp
  | some leg =>
    change (if leg.ltp ≤ 0 then none else some leg.ltp) = some ltp ↔ _
    constructor
    · intro found
      split at found
      case isTrue => cases found
      case isFalse positive =>
        cases found
        exact ⟨⟨leg, rfl, rfl⟩, lt_of_not_ge positive⟩
    · rintro ⟨⟨other, same, rfl⟩, positive⟩
      cases same
      exact if_neg (not_le_of_gt positive)

section Scan

variable {pool : Pool} {ceStronger : Bool} {rulePass : Int → Int → Bool}

theorem biased_iff {ceLtp peLtp : Rat} :
    Biased ceStronger ceLtp peLtp ↔ ¬outOfBias ceStronger ceLtp peLtp = true := by
  cases ceStronger <;> simp [Biased, outOfBias]

/-- What an inner round offers. -/
theorem offered_iff {sCe sPe : Int} {ceLtp : Rat} {new : Scored} :
    offered pool ceStronger rulePass sCe ceLtp sPe = some new ↔
      ∃ peLtp, quoted pool .pe sPe = some peLtp ∧ floor pool ≤ entryValue pool .ce sCe ceLtp ∧
        floor pool ≤ entryValue pool .pe sPe peLtp ∧ Biased ceStronger ceLtp peLtp ∧
        rulePass sCe sPe = true ∧
        new = ⟨balancedScore ceLtp peLtp, sCe, sPe, ceLtp, peLtp⟩ := by
  rw [offered]
  cases quoted pool .pe sPe with
  | none => simp
  | some peLtp =>
    simp only [Option.some.injEq, exists_eq_left', biased_iff]
    constructor
    · intro result
      split at result
      case isTrue => cases result
      case isFalse low =>
        split at result
        case isTrue => cases result
        case isFalse bias =>
          split at result
          case isTrue => cases result
          case isFalse blocked =>
            rw [not_or, not_lt, not_lt] at low
            rw [Bool.not_eq_false] at blocked
            exact ⟨low.1, low.2, bias, blocked, (Option.some.inj result).symm⟩
    · rintro ⟨ceFloor, peFloor, bias, rules, rfl⟩
      have low : ¬(entryValue pool .ce sCe ceLtp < floor pool ∨
          entryValue pool .pe sPe peLtp < floor pool) :=
        not_or.mpr ⟨not_lt.mpr ceFloor, not_lt.mpr peFloor⟩
      have passes : ¬rulePass sCe sPe = false := by
        rw [rules]
        exact Bool.noConfusion
      rw [if_neg low, if_neg bias, if_neg passes]

/-- The candidates are the admissible pairs. -/
theorem mem_candidates {new : Scored} :
    new ∈ candidates pool ceStronger rulePass ↔
      Admissible pool ceStronger rulePass new.pair ∧
        new.score = balancedScore new.pair.ceLtp new.pair.peLtp := by
  rw [candidates, List.mem_flatMap]
  constructor
  · rintro ⟨sCe, ceNear, member⟩
    cases ceQuoted : quoted pool .ce sCe with
    | none =>
      rw [ceQuoted] at member
      cases member
    | some ceLtp =>
      rw [ceQuoted] at member
      obtain ⟨sPe, peNear, found⟩ := List.mem_filterMap.mp member
      obtain ⟨peLtp, peQuoted, ceFloor, peFloor, bias, rules, rfl⟩ := offered_iff.mp found
      obtain ⟨ceCached, cePositive⟩ := quoted_iff.mp ceQuoted
      obtain ⟨peCached, pePositive⟩ := quoted_iff.mp peQuoted
      exact ⟨⟨⟨mem_strikes.mp ceNear, ceCached, cePositive, ceFloor⟩,
        ⟨mem_strikes.mp peNear, peCached, pePositive, peFloor⟩, bias, rules⟩, rfl⟩
  · rintro ⟨admissible, score⟩
    obtain ⟨ce, pe, bias, rules⟩ := admissible
    refine ⟨new.pair.ceStrike, mem_strikes.mpr ce.near, ?_⟩
    have ceQuoted := quoted_iff.mpr ⟨ce.cached, ce.positive⟩
    have peQuoted := quoted_iff.mpr ⟨pe.cached, pe.positive⟩
    rw [ceQuoted]
    refine List.mem_filterMap.mpr ⟨new.pair.peStrike, mem_strikes.mpr pe.near, ?_⟩
    refine offered_iff.mpr ⟨_, peQuoted, ce.floor, pe.floor, bias, rules, ?_⟩
    rw [← score]

end Scan

/-! ## The chosen pair -/

section Chosen

variable {pool : Pool} {rulePass : Int → Int → Bool}

theorem scanPool_cached {pair : Pair} (found : scanPool pool rulePass = some pair) :
    ∃ ceAtm peAtm, pool.strikePrem.lookup (atm pool, .ce) = some ceAtm ∧
      pool.strikePrem.lookup (atm pool, .pe) = some peAtm := by
  rw [scanPool] at found
  split at found
  case h_1 ceAtm peAtm ceCached peCached => exact ⟨ceAtm, peAtm, ceCached, peCached⟩
  case h_2 => cases found

variable {ceAtm peAtm : Quote} (ceCached : pool.strikePrem.lookup (atm pool, .ce) = some ceAtm)
  (peCached : pool.strikePrem.lookup (atm pool, .pe) = some peAtm)
include ceCached peCached

theorem scanPool_eq :
    scanPool pool rulePass =
      ((candidates pool (decide (atmValue pool .pe peAtm < atmValue pool .ce ceAtm))
        rulePass).argmin Scored.score).map Scored.pair := by
  rw [scanPool, ceCached, peCached, ← outerLoop_eq]

/-- The scan takes an admissible pair, and none is more balanced. -/
theorem scanPool_least {pair : Pair} (found : scanPool pool rulePass = some pair) :
    let ceStronger := decide (atmValue pool .pe peAtm < atmValue pool .ce ceAtm)
    Admissible pool ceStronger rulePass pair ∧ ∀ other, Admissible pool ceStronger rulePass other →
      |pair.ceLtp - pair.peLtp| / (pair.ceLtp + pair.peLtp) ≤
        |other.ceLtp - other.peLtp| / (other.ceLtp + other.peLtp) := by
  intro ceStronger
  have scored {pair : Pair} (admissible : Admissible pool ceStronger rulePass pair) :
      balancedScore pair.ceLtp pair.peLtp =
        |pair.ceLtp - pair.peLtp| / (pair.ceLtp + pair.peLtp) :=
    if_pos (add_pos admissible.ce.positive admissible.pe.positive)
  rw [scanPool_eq ceCached peCached, Option.map_eq_some_iff] at found
  obtain ⟨best, least, rfl⟩ := found
  obtain ⟨admissible, score⟩ := mem_candidates.mp (List.argmin_mem least)
  refine ⟨admissible, fun other otherAdmissible => ?_⟩
  have member : (⟨balancedScore other.ceLtp other.peLtp, other⟩ : Scored) ∈
      candidates pool ceStronger rulePass := mem_candidates.mpr ⟨otherAdmissible, rfl⟩
  have below := List.le_of_mem_argmin member least
  rwa [score, scored admissible, scored otherAdmissible] at below

/-- The scan finds nothing exactly if there is no admissible pair. -/
theorem scanPool_none :
    scanPool pool rulePass = none ↔ ∀ pair,
      ¬Admissible pool (decide (atmValue pool .pe peAtm < atmValue pool .ce ceAtm)) rulePass pair
    := by
  rw [scanPool_eq ceCached peCached, Option.map_eq_none_iff, List.argmin_eq_none,
    List.eq_nil_iff_forall_not_mem]
  constructor
  · intro empty pair admissible
    exact empty ⟨balancedScore pair.ceLtp pair.peLtp, pair⟩
      (mem_candidates.mpr ⟨admissible, rfl⟩)
  · intro none new member
    exact none new.pair (mem_candidates.mp member).1

end Chosen

/-- With both legs at the money cached the scan finds a pair exactly if there is one: strikes
among `int(ATM + i * step)` for `i` from minus to plus the offset, so with a step of whole
points within so many steps of the money, positive premiums that reach the floor, the smaller
premium on the side with the greater time value at the money (the put if they are equal), and
rules that pass. No other such pair is more balanced. -/
theorem scanPool_optimal (pool : Pool) (rulePass : Int → Int → Bool) (ceAtm peAtm : Quote)
    (ceCached : pool.strikePrem.lookup (atm pool, .ce) = some ceAtm)
    (peCached : pool.strikePrem.lookup (atm pool, .pe) = some peAtm) :
    let ceStronger := decide (atmValue pool .pe peAtm < atmValue pool .ce ceAtm)
    (∀ pair, scanPool pool rulePass = some pair →
      Admissible pool ceStronger rulePass pair ∧
      (∀ whole : Int, pool.step = whole →
        |pair.ceStrike - atm pool| ≤ pool.offset * whole ∧
          |pair.peStrike - atm pool| ≤ pool.offset * whole) ∧
      ∀ other, Admissible pool ceStronger rulePass other →
        |pair.ceLtp - pair.peLtp| / (pair.ceLtp + pair.peLtp) ≤
          |other.ceLtp - other.peLtp| / (other.ceLtp + other.peLtp)) ∧
    (scanPool pool rulePass = none ↔ ∀ pair, ¬Admissible pool ceStronger rulePass pair) := by
  refine ⟨fun pair found => ?_, scanPool_none ceCached peCached⟩
  obtain ⟨admissible, balanced⟩ := scanPool_least ceCached peCached found
  refine ⟨admissible, fun whole step => ?_, balanced⟩
  obtain ⟨i, ceInside, ceAt⟩ := admissible.ce.near
  obtain ⟨j, peInside, peAt⟩ := admissible.pe.near
  rw [ceAt, peAt]
  exact ⟨strikeAt_within step ceInside, strikeAt_within step peInside⟩

def leg (strike : Int) (side : OptType) (ltp : Rat) (cache : StrikePrem) : StrikePrem :=
  cache.insert (strike, side) ⟨ltp, ltp⟩

theorem fifty_pos : (0 : Rat) < 50 := by decide

theorem fiveHalves_pos : (0 : Rat) < 5 / 2 := by decide +kernel

/-- Steps of fifty points around 100. -/
def wholeSteps : Pool where
  strikePrem := leg 100 .ce 55 (leg 100 .pe 50 (leg 50 .ce 90 (leg 50 .pe 70 ∅)))
  spot := 101
  step := 50
  step_pos := fifty_pos
  offset := 1
  ltpTarget := 30

theorem wholeSteps_optimal :
    scanPool wholeSteps (fun _ _ => true) = some ⟨100, 50, 55, 70⟩ ∧
      Admissible wholeSteps true (fun _ _ => true) ⟨100, 50, 55, 70⟩ := by
  have chosen : scanPool wholeSteps (fun _ _ => true) = some ⟨100, 50, 55, 70⟩ := by
    decide +kernel
  have stronger : decide (atmValue wholeSteps .pe ⟨50, 50⟩ < atmValue wholeSteps .ce ⟨55, 55⟩) =
      true := by decide +kernel
  have optimal := (scanPool_optimal wholeSteps (fun _ _ => true) ⟨55, 55⟩ ⟨50, 50⟩
    (by decide +kernel) (by decide +kernel)).1 _ chosen
  rw [stronger] at optimal
  exact ⟨chosen, optimal.1⟩

/-- Steps of two and a half points around 7.5; strikes lose their fraction. -/
def halfSteps : Pool where
  strikePrem := leg 7 .ce 50 (leg 7 .pe 60 (leg 4 .ce 65 ∅))
  spot := 15 / 2
  step := 5 / 2
  step_pos := fiveHalves_pos
  offset := 1
  ltpTarget := 30

/-- A call that no longer has a premium, without a floor. -/
def freeCall : Pool where
  strikePrem := leg 100 .ce 10 (leg 100 .pe 5 (leg 150 .ce 0 ∅))
  spot := 100
  step := 50
  step_pos := fifty_pos
  offset := 1
  ltpTarget := 0

/-- A chosen strike may lie more than the offset from the money, and a pair that reaches the
floor and has the right bias is not chosen when one of its premiums is zero. -/
theorem scanPool_fractions_and_zeros :
    (scanPool halfSteps (fun _ _ => true) = some ⟨4, 7, 65, 60⟩ ∧ atm halfSteps = 7 ∧
      halfSteps.offset * halfSteps.step < |((4 : Int) : Rat) - (atm halfSteps : Rat)|) ∧
    (scanPool freeCall (fun _ _ => true) = none ∧ atm freeCall = 100 ∧
      atmValue freeCall .pe ⟨5, 5⟩ < atmValue freeCall .ce ⟨10, 10⟩ ∧
      freeCall.strikePrem.lookup (150, .ce) = some ⟨0, 0⟩ ∧
      freeCall.strikePrem.lookup (100, .pe) = some ⟨5, 5⟩ ∧
      floor freeCall ≤ entryValue freeCall .ce 150 0 ∧
      floor freeCall ≤ entryValue freeCall .pe 100 5 ∧ (0 : Rat) < 5) := by
  decide +kernel

end OptionChain.StraddleSelection
