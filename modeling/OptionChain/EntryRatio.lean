import Mathlib.Data.List.Pairwise
import Mathlib.Tactic.Linarith
import OptionChain.RuleEvaluation
import OptionChain.StraddleSelection

/-!
# The ratio of the premiums at an entry

An entry is decided in three steps: a pair is selected, a pair that is too skewed is to
be dropped, and the rules must pass for it. The cap asks the premium cache for a text
where the cache is keyed by strike and side, finds nothing and never drops a pair.

`entryRatio_iff` says when the pairs that are opened stay below the cap all the same.
-/

namespace OptionChain.EntryRatio

open Broker PoolIndicators RuleEvaluation StraddleSelection

/-- What the cache can be asked for. -/
inductive CacheKey where
  | leg (strike : Int) (side : OptType)
  | text (key : String)

/-- The premium at a key, or zero. No text is a key of the cache. -/
def premiumAt (cache : StrikePrem) : CacheKey → Rat
  | .leg strike side => ((cache.lookup (strike, side)).map Quote.ltp).getD 0
  | .text _ => 0

/-- What `_eval_ruleset` is given; `primed` is what `_is_primed` says, `indByTf` the
indicators of a pair. -/
structure Evaluation where
  pool : Pool
  useBeginningSel : Bool
  maxEntryRatio : Rat
  primed : Bool
  rules : List Rule
  indByTf : Int → Int → IndicatorMap
  evalText : List Piece → Bool

section Evaluation

variable (eval : Evaluation)

def rulePass (ceStrike peStrike : Int) : Bool :=
  evalRules eval.evalText eval.rules (eval.indByTf ceStrike peStrike)

def selected : Option Pair :=
  if eval.useBeginningSel then selectBalancedPair eval.pool
  else scanPool eval.pool (rulePass eval)

/-- The cap on a selected pair. -/
def capped (sel : Pair) : Option Pair :=
  if 0 < eval.maxEntryRatio then
    let ceLtp := premiumAt eval.pool.strikePrem (.text (toString sel.ceStrike ++ ":CE"))
    let peLtp := premiumAt eval.pool.strikePrem (.text (toString sel.peStrike ++ ":PE"))
    if 0 < ceLtp ∧ 0 < peLtp then
      if eval.maxEntryRatio < max ceLtp peLtp / min ceLtp peLtp then none else some sel
    else some sel
  else some sel

/-- `_eval_ruleset`: the pair that it opens a position on. -/
def evalRuleset : Option Pair :=
  if eval.primed then
    match (selected eval).bind (capped eval) with
    | none => none
    | some sel => if rulePass eval sel.ceStrike sel.peStrike then some sel else none
  else none

end Evaluation

def WithinRatio (ratio : Rat) (pair : Pair) : Prop :=
  max pair.ceLtp pair.peLtp ≤ ratio * min pair.ceLtp pair.peLtp

/-! ## What there is to select -/

/-- The leg at the money with the smaller time value, the put if they are equal. -/
def Anchor (pool : Pool) (side : OptType) (ltp : Rat) : Prop :=
  ∃ ceAtm peAtm, pool.strikePrem.lookup (atm pool, .ce) = some ceAtm ∧
    pool.strikePrem.lookup (atm pool, .pe) = some peAtm ∧ 0 < ceAtm.ltp ∧ 0 < peAtm.ltp ∧
    (side, ltp) = anchorLeg pool ceAtm peAtm ∧
    floor pool ≤ entryValue pool side (atm pool) ltp

/-- A leg that may be sold with an anchor. -/
structure Partner (pool : Pool) (side : OptType) (anchorLtp : Rat) (found : Rat × Int) : Prop where
  near : ∃ i : Int, |i| ≤ pool.offset ∧ found.2 = strikeAt pool i
  cached : ∃ leg, pool.strikePrem.lookup (found.2, side) = some leg ∧ leg.ltp = found.1
  floor : floor pool ≤ entryValue pool side found.2 found.1
  below : found.1 < anchorLtp

/-- A pair of an anchor and a partner. -/
def Beginning (pool : Pool) (pair : Pair) : Prop :=
  ∃ side ltp found, Anchor pool side ltp ∧ Partner pool side.other ltp found ∧
    pair = anchored pool side ltp found

/-- The pair whose partner has the highest premium, at the lowest strike with it. -/
def Leading (pool : Pool) (pair : Pair) : Prop :=
  ∃ side ltp found, Anchor pool side ltp ∧ Partner pool side.other ltp found ∧
    (∀ other, Partner pool side.other ltp other →
      other.1 ≤ found.1 ∧ (found.1 ≤ other.1 → found.2 ≤ other.2)) ∧
    pair = anchored pool side ltp found

/-- A pair that the pool scan may choose, with both legs at the money cached. -/
def Scannable (pool : Pool) (rulePass : Int → Int → Bool) (pair : Pair) : Prop :=
  ∃ ceAtm peAtm, pool.strikePrem.lookup (atm pool, .ce) = some ceAtm ∧
    pool.strikePrem.lookup (atm pool, .pe) = some peAtm ∧
    Admissible pool (decide (atmValue pool .pe peAtm < atmValue pool .ce ceAtm)) rulePass pair

/-- There is nothing to open, or a pair that stays below the cap is among those to select
from. At the beginning there is nothing to open either when the rules block the leading
pair. -/
def Fits (eval : Evaluation) : Prop :=
  eval.primed = true →
    if eval.useBeginningSel then
      ∀ pair, Leading eval.pool pair → rulePass eval pair.ceStrike pair.peStrike = true →
        ∃ other, Beginning eval.pool other ∧ WithinRatio eval.maxEntryRatio other
    else
      (∃ pair, Scannable eval.pool (rulePass eval) pair) →
        ∃ pair, Scannable eval.pool (rulePass eval) pair ∧ WithinRatio eval.maxEntryRatio pair

/-! ## The beginning selection -/

/-- In a list that is scanned upwards the first best element is the lowest one. -/
theorem argmax_lowest {α : Type} [DecidableEq α] {value : α → Rat} {place : α → Int}
    (determined : ∀ a b, value a = value b → place a = place b → a = b) {offers : List α}
    (sorted : offers.Pairwise (fun a b => place a ≤ place b)) {found : α} :
    offers.argmax value = some found ↔
      found ∈ offers ∧ ∀ other ∈ offers,
        value other ≤ value found ∧ (value found ≤ value other → place found ≤ place other) := by
  have lowest {best : α} (most : best ∈ offers.argmax value) :
      ∀ other ∈ offers,
        value other ≤ value best ∧ (value best ≤ value other → place best ≤ place other) := by
    obtain ⟨member, greatest, first⟩ := List.mem_argmax_iff.mp most
    refine fun other inside => ⟨greatest other inside, fun equal => ?_⟩
    rcases Nat.lt_or_eq_of_le (first other inside equal) with before | same
    · -- an earlier element stands at no higher place
      have ordered := List.pairwise_iff_getElem.mp sorted _ _
        (List.idxOf_lt_length_iff.mpr member) (List.idxOf_lt_length_iff.mpr inside) before
      rwa [List.getElem_idxOf, List.getElem_idxOf] at ordered
    · rw [(List.idxOf_inj member).mp same]
  constructor
  · intro most
    exact ⟨List.argmax_mem most, lowest most⟩
  · rintro ⟨member, highest⟩
    cases result : offers.argmax value with
    | none =>
      rw [List.argmax_eq_none.mp result] at member
      cases member
    | some best =>
      obtain ⟨below, atMost⟩ := highest best (List.argmax_mem (Option.mem_def.mpr result))
      obtain ⟨above, atLeast⟩ := lowest (Option.mem_def.mpr result) found member
      have places := le_antisymm (atMost above) (atLeast below)
      rw [determined _ _ (le_antisymm above below) places]

section Beginning

variable {pool : Pool} {side : OptType} {ltp : Rat}

def partners (pool : Pool) (side : OptType) (anchorLtp : Rat) : List (Rat × Int) :=
  (strikes pool).filterMap (partner pool side anchorLtp)

theorem partnerLoop_eq : partnerLoop pool side ltp = (partners pool side ltp).argmax Prod.fst := by
  rw [List.argmax, partners, List.foldl_filterMap, partnerLoop]
  congr 1
  funext best s
  cases partner pool side ltp s with
  | none => rfl
  | some new => cases best <;> rfl

theorem mem_partners {found : Rat × Int} :
    found ∈ partners pool side ltp ↔ Partner pool side ltp found := by
  rw [partners, List.mem_filterMap]
  constructor
  · rintro ⟨s, near, offered⟩
    rw [partner] at offered
    cases cached : pool.strikePrem.lookup (s, side) with
    | none =>
      rw [cached] at offered
      cases offered
    | some leg =>
      rw [cached] at offered
      change (if _ then some (leg.ltp, s) else none) = some found at offered
      split at offered
      case isTrue band =>
        cases offered
        exact ⟨mem_strikes.mp near, ⟨leg, cached, rfl⟩, band.1, band.2⟩
      case isFalse => cases offered
  · rintro ⟨near, ⟨leg, cached, premium⟩, floor, below⟩
    rw [← premium] at floor below
    refine ⟨found.2, mem_strikes.mpr near, ?_⟩
    rw [partner, cached]
    change (if _ then some (leg.ltp, found.2) else none) = some found
    rw [if_pos ⟨floor, below⟩, premium]

theorem partners_sorted (pool : Pool) (side : OptType) (ltp : Rat) :
    (partners pool side ltp).Pairwise (fun a b => a.2 ≤ b.2) := by
  rw [partners, List.pairwise_filterMap]
  refine (strikes_sorted pool).imp fun {s t} before a aFound b bFound => ?_
  have own {strike : Int} {found : Rat × Int} (offered : partner pool side ltp strike = some found) :
      found.2 = strike := by
    rw [partner] at offered
    split at offered
    case h_1 => cases offered
    case h_2 =>
      split at offered
      · cases offered
        rfl
      · cases offered
  rw [own aFound, own bFound]
  exact before

/-- The anchor of a selection is the only one. -/
theorem selectBalancedPair_eq (anchor : Anchor pool side ltp) :
    selectBalancedPair pool =
      (partnerLoop pool side.other ltp).map (anchored pool side ltp) := by
  obtain ⟨ceAtm, peAtm, ceCached, peCached, cePositive, pePositive, sides, floor⟩ := anchor
  have positive : ¬(ceAtm.ltp ≤ 0 ∨ peAtm.ltp ≤ 0) :=
    not_or.mpr ⟨not_le.mpr cePositive, not_le.mpr pePositive⟩
  rw [selectBalancedPair, ceCached, peCached]
  change (if ceAtm.ltp ≤ 0 ∨ peAtm.ltp ≤ 0 then none else _) = _
  rw [if_neg positive, ← sides]
  exact if_neg (not_lt.mpr floor)

theorem anchor_unique {side' : OptType} {ltp' : Rat} (one : Anchor pool side ltp)
    (two : Anchor pool side' ltp') : side = side' ∧ ltp = ltp' := by
  obtain ⟨ceAtm, peAtm, ceCached, peCached, -, -, sides, -⟩ := one
  obtain ⟨ceAtm', peAtm', ceCached', peCached', -, -, sides', -⟩ := two
  cases ceCached.symm.trans ceCached'
  cases peCached.symm.trans peCached'
  exact Prod.mk.inj (sides.trans sides'.symm)

theorem anchor_of_selected {pair : Pair} (found : selectBalancedPair pool = some pair) :
    ∃ side ltp, Anchor pool side ltp := by
  rw [selectBalancedPair] at found
  split at found
  case h_2 => cases found
  case h_1 ceAtm peAtm ceCached peCached =>
    split at found
    case isTrue => cases found
    case isFalse positive =>
      simp only at found
      split at found
      case isTrue => cases found
      case isFalse floor =>
        rw [not_or, not_le, not_le] at positive
        exact ⟨_, _, ceAtm, peAtm, ceCached, peCached, positive.1, positive.2, rfl, not_lt.mp floor⟩

/-- The beginning selection takes the leading pair. -/
theorem selectBalancedPair_iff {pair : Pair} :
    selectBalancedPair pool = some pair ↔ Leading pool pair := by
  have chosen {side : OptType} {ltp : Rat} (found : Rat × Int) :
      partnerLoop pool side.other ltp = some found ↔
        Partner pool side.other ltp found ∧ ∀ other, Partner pool side.other ltp other →
          other.1 ≤ found.1 ∧ (found.1 ≤ other.1 → found.2 ≤ other.2) := by
    rw [partnerLoop_eq, argmax_lowest (fun a b => Prod.ext) (partners_sorted pool side.other ltp),
      mem_partners]
    simp only [mem_partners]
  constructor
  · intro found
    obtain ⟨side, ltp, anchor⟩ := anchor_of_selected found
    rw [selectBalancedPair_eq anchor, Option.map_eq_some_iff] at found
    obtain ⟨best, most, rfl⟩ := found
    obtain ⟨own, highest⟩ := (chosen best).mp most
    exact ⟨side, ltp, best, anchor, own, highest, rfl⟩
  · rintro ⟨side, ltp, best, anchor, own, highest, rfl⟩
    rw [selectBalancedPair_eq anchor, (chosen best).mpr ⟨own, highest⟩]
    rfl

end Beginning

/-! ## The cap -/

/-- The cap drops nothing: the text is no key of the cache. -/
theorem capped_eq (eval : Evaluation) (sel : Pair) : capped eval sel = some sel := by
  rw [capped]
  split
  · exact if_neg fun both => lt_irrefl _ both.1
  · rfl

theorem evalRuleset_iff {eval : Evaluation} {pair : Pair} :
    evalRuleset eval = some pair ↔
      eval.primed = true ∧ selected eval = some pair ∧
        rulePass eval pair.ceStrike pair.peStrike = true := by
  have uncapped : (selected eval).bind (capped eval) = selected eval := by
    cases selected eval with
    | none => rfl
    | some sel => exact capped_eq eval sel
  rw [evalRuleset, uncapped]
  cases eval.primed with
  | false => simp
  | true =>
    cases selected eval with
    | none => simp
    | some sel =>
      simp only [if_true, Option.ite_none_right_eq_some, Option.some.injEq, true_and]
      constructor
      · rintro ⟨rules, rfl⟩
        exact ⟨rfl, rules⟩
      · rintro ⟨rfl, rules⟩
        exact ⟨rules, rfl⟩

section Ratio

variable {pool : Pool} {ratio : Rat}

/-- With one anchor, a richer partner is within the ratio if a poorer one is. -/
theorem withinRatio_anchored (positive : 0 < ratio) {side : OptType} {ltp : Rat}
    {found other : Rat × Int} (below : found.1 < ltp) (poorer : other.1 ≤ found.1)
    (within : WithinRatio ratio (anchored pool side ltp other)) :
    WithinRatio ratio (anchored pool side ltp found) := by
  have scaled : ratio * other.1 ≤ ratio * found.1 := mul_le_mul_of_nonneg_left poorer positive.le
  have otherBelow : other.1 < ltp := lt_of_le_of_lt poorer below
  cases side with
  | ce =>
    simp only [WithinRatio, anchored, max_eq_left below.le, min_eq_right below.le,
      max_eq_left otherBelow.le, min_eq_right otherBelow.le] at within ⊢
    exact within.trans scaled
  | pe =>
    simp only [WithinRatio, anchored, max_eq_right below.le, min_eq_left below.le,
      max_eq_right otherBelow.le, min_eq_left otherBelow.le] at within ⊢
    exact within.trans scaled

/-- The difference of two premiums over their sum, and their ratio, grow together. -/
theorem ratio_of_score {a b c d : Rat} (a_pos : 0 < a) (b_pos : 0 < b) (c_pos : 0 < c)
    (d_pos : 0 < d) (score : |a - b| / (a + b) ≤ |c - d| / (c + d)) :
    max a b * min c d ≤ max c d * min a b := by
  rw [div_le_div_iff₀ (add_pos a_pos b_pos) (add_pos c_pos d_pos), ← max_sub_min_eq_abs',
    ← max_sub_min_eq_abs', ← max_add_min a b, ← max_add_min c d] at score
  linarith

theorem withinRatio_balanced {pair other : Pair} (cePos : 0 < pair.ceLtp) (pePos : 0 < pair.peLtp)
    (otherCe : 0 < other.ceLtp) (otherPe : 0 < other.peLtp)
    (score : |pair.ceLtp - pair.peLtp| / (pair.ceLtp + pair.peLtp) ≤
      |other.ceLtp - other.peLtp| / (other.ceLtp + other.peLtp))
    (within : WithinRatio ratio other) : WithinRatio ratio pair := by
  have least : 0 < min other.ceLtp other.peLtp := lt_min otherCe otherPe
  have own : 0 < min pair.ceLtp pair.peLtp := lt_min cePos pePos
  have cross := ratio_of_score cePos pePos otherCe otherPe score
  have bound := mul_le_mul_of_nonneg_right within own.le
  rw [WithinRatio]
  refine le_of_mul_le_mul_right ?_ least
  calc max pair.ceLtp pair.peLtp * min other.ceLtp other.peLtp
      ≤ max other.ceLtp other.peLtp * min pair.ceLtp pair.peLtp := cross
    _ ≤ ratio * min other.ceLtp other.peLtp * min pair.ceLtp pair.peLtp := bound
    _ = ratio * min pair.ceLtp pair.peLtp * min other.ceLtp other.peLtp := by ring

end Ratio

/-- What the pool scan finds is scannable, and no scannable pair is more balanced. -/
theorem scanPool_balanced {pool : Pool} {rulePass : Int → Int → Bool} {pair : Pair}
    (found : scanPool pool rulePass = some pair) :
    Scannable pool rulePass pair ∧ ∀ other, Scannable pool rulePass other →
      |pair.ceLtp - pair.peLtp| / (pair.ceLtp + pair.peLtp) ≤
        |other.ceLtp - other.peLtp| / (other.ceLtp + other.peLtp) := by
  obtain ⟨ceAtm, peAtm, ceCached, peCached⟩ := scanPool_cached found
  obtain ⟨admissible, balanced⟩ := scanPool_least ceCached peCached found
  refine ⟨⟨ceAtm, peAtm, ceCached, peCached, admissible⟩, ?_⟩
  rintro other ⟨ceAtm', peAtm', ceCached', peCached', otherAdmissible⟩
  cases ceCached.symm.trans ceCached'
  cases peCached.symm.trans peCached'
  exact balanced other otherAdmissible

theorem scanPool_exists {pool : Pool} {rulePass : Int → Int → Bool} {pair : Pair}
    (scannable : Scannable pool rulePass pair) : ∃ best, scanPool pool rulePass = some best := by
  obtain ⟨ceAtm, peAtm, ceCached, peCached, admissible⟩ := scannable
  apply Option.ne_none_iff_exists'.mp
  intro none
  exact (scanPool_none ceCached peCached).mp none pair admissible

/-- Every position is opened on a pair within the entry ratio exactly if there is nothing to
open or a pair within the ratio is among those to select from. -/
theorem entryRatio_iff (eval : Evaluation) (positive : 0 < eval.maxEntryRatio) :
    (∀ pair, evalRuleset eval = some pair → WithinRatio eval.maxEntryRatio pair) ↔ Fits eval := by
  rw [Fits]
  constructor
  · intro kept primed
    split
    case isTrue beginning =>
      intro pair leading rules
      have selects : selected eval = some pair := by
        rw [selected, if_pos beginning]
        exact selectBalancedPair_iff.mpr leading
      have within := kept pair (evalRuleset_iff.mpr ⟨primed, selects, rules⟩)
      obtain ⟨side, ltp, found, anchor, own, -, same⟩ := leading
      exact ⟨pair, ⟨side, ltp, found, anchor, own, same⟩, within⟩
    case isFalse reentry =>
      rintro ⟨pair, scannable⟩
      obtain ⟨best, found⟩ := scanPool_exists scannable
      obtain ⟨bestScannable, -⟩ := scanPool_balanced found
      obtain ⟨ceAtm, peAtm, -, -, admissible⟩ := id bestScannable
      have selects : selected eval = some best := by
        rw [selected, if_neg reentry]
        exact found
      exact ⟨best, bestScannable,
        kept best (evalRuleset_iff.mpr ⟨primed, selects, admissible.rules⟩)⟩
  · intro fits pair opened
    obtain ⟨primed, selects, rules⟩ := evalRuleset_iff.mp opened
    have fits := fits primed
    rw [selected] at selects
    split at fits
    case isTrue beginning =>
      rw [if_pos beginning] at selects
      have leading := selectBalancedPair_iff.mp selects
      obtain ⟨other, ⟨side', ltp', found', anchor', own', rfl⟩, within⟩ := fits pair leading rules
      obtain ⟨side, ltp, found, anchor, own, highest, rfl⟩ := leading
      obtain ⟨rfl, rfl⟩ := anchor_unique anchor anchor'
      exact withinRatio_anchored positive own.below (highest found' own').1 within
    case isFalse reentry =>
      rw [if_neg reentry] at selects
      obtain ⟨scannable, balanced⟩ := scanPool_balanced selects
      obtain ⟨other, otherScannable, within⟩ := fits ⟨pair, scannable⟩
      have score := balanced other otherScannable
      obtain ⟨_, _, _, _, admissible⟩ := scannable
      obtain ⟨_, _, _, _, otherAdmissible⟩ := otherScannable
      exact withinRatio_balanced admissible.ce.positive admissible.pe.positive
        otherAdmissible.ce.positive otherAdmissible.pe.positive score within

/-- A first entry without rules around 100, with a cap of one and a half. -/
def firstEntry (partnerLtp : Rat) : Evaluation where
  pool :=
    { wholeSteps with
      strikePrem := leg 100 .ce 60 (leg 100 .pe 80 (leg 50 .pe partnerLtp ∅))
      spot := 100
      ltpTarget := 10 }
  useBeginningSel := true
  maxEntryRatio := 3 / 2
  primed := true
  rules := []
  indByTf _ _ := .flat ∅
  evalText _ := false

theorem firstEntry_fits :
    evalRuleset (firstEntry 50) = some ⟨100, 50, 60, 50⟩ ∧ Fits (firstEntry 50) := by
  have opens : evalRuleset (firstEntry 50) = some ⟨100, 50, 60, 50⟩ := by decide +kernel
  refine ⟨opens, (entryRatio_iff (firstEntry 50) (by decide +kernel)).mp ?_⟩
  intro pair opened
  cases opens.symm.trans opened
  rw [WithinRatio]
  decide +kernel

/-- A pair with premiums of sixty and twenty is opened. -/
theorem firstEntry_skewed :
    ¬∀ pair, evalRuleset (firstEntry 20) = some pair →
      WithinRatio (firstEntry 20).maxEntryRatio pair := by
  intro kept
  have within := kept ⟨100, 50, 60, 20⟩ (by decide +kernel)
  rw [WithinRatio] at within
  exact absurd within (by decide +kernel)

end OptionChain.EntryRatio
