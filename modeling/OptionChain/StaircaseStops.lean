import OptionChain.Ratchets
import OptionChain.Runs
import OptionChain.StraddleExits

/-!
# The staircase of the scalable stop

The scalable stop locks a profit once the base profit is reached, and more of it with
every further step. The lock of the position is a ratchet over these offers. With a
step of nothing the stop does not look at the profit at all, although the base lock
would be due.

`scalableTsl_staircase_iff` says when the stop follows its staircase over a whole run
of profits.
-/

namespace OptionChain.StaircaseStops

open Runs Ratchets StraddleBook StraddleExits

/-- Settings of a staircase: a number of lots and amounts that are not negative. -/
structure Staircase where
  settings : ExitSettings
  lots : 0 ≤ settings.lotMultiplier
  baseProfit : 0 ≤ settings.tslBaseProfitRs
  baseLock : 0 ≤ settings.tslBaseLockRs
  stepProfit : 0 ≤ settings.tslStepProfitRs
  stepLock : 0 ≤ settings.tslStepLockRs

section Spec

variable (identity : Identity) (stairs : Staircase)

/-- An amount for a contract unit, in the currency of the position. -/
def scaled (amount : Rat) : Rat :=
  amount * (stairs.settings.lotMultiplier * contractCv identity.underlying)

/-- The lock that a profit is due. -/
def stair (pnlPts : Rat) : Option Rat :=
  let profit := pnlRs stairs.settings identity pnlPts
  let base := scaled identity stairs stairs.settings.tslBaseProfitRs
  let step := scaled identity stairs stairs.settings.tslStepProfitRs
  if base ≤ profit then
    if step = 0 then some (scaled identity stairs stairs.settings.tslBaseLockRs)
    else some (scaled identity stairs stairs.settings.tslBaseLockRs +
      ((profit - base) / step).floor * scaled identity stairs stairs.settings.tslStepLockRs)
  else none

/-- The last of some profits lies below the greatest lock that they are due. -/
def Breached (profits : List Rat) (last : Rat) : Prop :=
  ∃ lock, IsGreatest (offers (stair identity stairs) (profits ++ [last])) lock ∧ 0 < lock ∧
    pnlRs stairs.settings identity last < lock

/-- The stop as a run of profits moves it. -/
def follow (pos : StraddlePosition) (profit : Rat) : StraddlePosition :=
  (checkScalableTsl stairs.settings identity pos profit).1

def fires (pos : StraddlePosition) (profit : Rat) : Bool :=
  (checkScalableTsl stairs.settings identity pos profit).2

/-- A position without a lock, as an entry or a roll leaves it. -/
def unlocked (pos : StraddlePosition) : StraddlePosition := { pos with tslHighLockRs := 0 }

/-- The stop fires where the staircase is breached, and neither lock ever falls. -/
def Follows (pos : StraddlePosition) (profits : List Rat) : Prop :=
  ∀ before last, before ++ [last] <+: profits →
    (fires identity stairs (run (follow identity stairs) (unlocked pos) before) last = true ↔
      Breached identity stairs before last) ∧
    (run (follow identity stairs) (unlocked pos) before).tslHighLockRs ≤
      (run (follow identity stairs) (unlocked pos) (before ++ [last])).tslHighLockRs ∧
    ∀ lower higher, IsGreatest (offers (stair identity stairs) before) lower →
      IsGreatest (offers (stair identity stairs) (before ++ [last])) higher → lower ≤ higher

/-- From the first profit that reaches the base on, no profit lies below a positive base
lock. -/
def StaysAbove (profits : List Rat) : Prop :=
  ∀ before last, before ++ [last] <+: profits →
    (∃ reached ∈ before ++ [last], scaled identity stairs stairs.settings.tslBaseProfitRs ≤
      pnlRs stairs.settings identity reached) →
    0 < scaled identity stairs stairs.settings.tslBaseLockRs →
      scaled identity stairs stairs.settings.tslBaseLockRs ≤
        pnlRs stairs.settings identity last

end Spec

section Stop

variable {identity : Identity} {stairs : Staircase}

theorem contractCv_pos (underlying : String) : 0 < contractCv underlying := by
  rw [contractCv]
  split_ifs <;> norm_num

theorem scaled_nonneg {amount : Rat} (nonneg : 0 ≤ amount) : 0 ≤ scaled identity stairs amount := by
  have lots : (0 : Rat) ≤ stairs.settings.lotMultiplier := Int.cast_nonneg stairs.lots
  exact mul_nonneg nonneg (mul_nonneg lots (contractCv_pos _).le)

/-- With a step the lock is a ratchet on the staircase. -/
theorem follow_lock (stepped : 0 < scaled identity stairs stairs.settings.tslStepProfitRs)
    (pos : StraddlePosition) (profit : Rat) :
    (follow identity stairs pos profit).tslHighLockRs =
      climb (stair identity stairs) pos.tslHighLockRs profit := by
  have step : 0 < stairs.settings.tslStepProfitRs *
    (stairs.settings.lotMultiplier * contractCv identity.underlying) := stepped
  simp only [follow, checkScalableTsl, climb, stair, scaled, step.ne', step, and_true, if_false]
  split
  case isTrue reached =>
    simp only []
    split
    case isTrue higher => exact (max_eq_right higher.le).symm
    case isFalse lower => exact (max_eq_left (not_lt.mp lower)).symm
  case isFalse => rfl

/-- With no step the lock never moves. -/
theorem follow_flat (flat : scaled identity stairs stairs.settings.tslStepProfitRs = 0)
    (pos : StraddlePosition) (profit : Rat) : follow identity stairs pos profit = pos := by
  have step : stairs.settings.tslStepProfitRs *
    (stairs.settings.lotMultiplier * contractCv identity.underlying) = 0 := flat
  simp only [follow, checkScalableTsl, step, lt_irrefl, and_false, if_false]

/-- The stop fires below the lock that the profit leaves. -/
theorem fires_iff (pos : StraddlePosition) (profit : Rat) :
    fires identity stairs pos profit = true ↔
      0 < (follow identity stairs pos profit).tslHighLockRs ∧
        pnlRs stairs.settings identity profit <
          (follow identity stairs pos profit).tslHighLockRs := by
  simp only [fires, follow, checkScalableTsl, Bool.and_eq_true, decide_eq_true_iff]

theorem run_lock (stepped : 0 < scaled identity stairs stairs.settings.tslStepProfitRs)
    (pos : StraddlePosition) (profits : List Rat) :
    (run (follow identity stairs) pos profits).tslHighLockRs =
      profits.foldl (climb (stair identity stairs)) pos.tslHighLockRs := by
  induction profits generalizing pos with
  | nil => rfl
  | cons profit rest inductionHypothesis =>
    rw [run_cons, inductionHypothesis, follow_lock stepped, List.foldl_cons]

theorem run_flat (flat : scaled identity stairs stairs.settings.tslStepProfitRs = 0)
    (pos : StraddlePosition) (profits : List Rat) :
    run (follow identity stairs) pos profits = pos := by
  induction profits with
  | nil => rfl
  | cons profit rest inductionHypothesis => rw [run_cons, follow_flat flat, inductionHypothesis]

/-- With a step the stop follows its staircase on every run. -/
theorem follows_stepped (stepped : 0 < scaled identity stairs stairs.settings.tslStepProfitRs)
    (pos : StraddlePosition) (profits : List Rat) : Follows identity stairs pos profits := by
  intro before last _
  have after : follow identity stairs (run (follow identity stairs) (unlocked pos) before) last =
      run (follow identity stairs) (unlocked pos) (before ++ [last]) := by
    rw [run_append, run_cons, run_nil]
  have start : (unlocked pos).tslHighLockRs = 0 := rfl
  refine ⟨?_, ?_, fun _ _ => greatest_mono _⟩
  · rw [fires_iff, after, run_lock stepped, start]
    exact climb_greatest_iff _ _ _ _
  · rw [← after, follow_lock stepped]
    exact climb_le _ _ _

/-- Without a step every lock that is due is the base lock. -/
theorem breached_flat (flat : scaled identity stairs stairs.settings.tslStepProfitRs = 0)
    (before : List Rat) (last : Rat) :
    Breached identity stairs before last ↔
      (∃ reached ∈ before ++ [last], scaled identity stairs stairs.settings.tslBaseProfitRs ≤
        pnlRs stairs.settings identity reached) ∧
      0 < scaled identity stairs stairs.settings.tslBaseLockRs ∧
        pnlRs stairs.settings identity last <
          scaled identity stairs stairs.settings.tslBaseLockRs := by
  have due (profit value : Rat) : stair identity stairs profit = some value ↔
      scaled identity stairs stairs.settings.tslBaseProfitRs ≤
          pnlRs stairs.settings identity profit ∧
        scaled identity stairs stairs.settings.tslBaseLockRs = value := by
    rw [stair, flat]
    simp only [if_true, Option.ite_none_right_eq_some, Option.some.injEq]
  constructor
  · rintro ⟨lock, ⟨⟨reached, member, offered⟩, -⟩, positive, below⟩
    obtain ⟨base, rfl⟩ := (due reached lock).mp offered
    exact ⟨⟨reached, member, base⟩, positive, below⟩
  · rintro ⟨⟨reached, member, base⟩, positive, below⟩
    refine ⟨_, ⟨⟨reached, member, (due reached _).mpr ⟨base, rfl⟩⟩, ?_⟩, positive, below⟩
    rintro value ⟨other, -, offered⟩
    exact ((due other value).mp offered).2.ge

/-- Without a step the stop never fires. -/
theorem follows_flat (flat : scaled identity stairs stairs.settings.tslStepProfitRs = 0)
    (pos : StraddlePosition) (profits : List Rat) :
    Follows identity stairs pos profits ↔ StaysAbove identity stairs profits := by
  have silent (before : List Rat) (last : Rat) :
      ¬fires identity stairs (run (follow identity stairs) (unlocked pos) before) last = true := by
    rw [fires_iff, follow_flat flat, run_flat flat]
    exact fun both => lt_irrefl _ both.1
  constructor
  · intro follows before last within reached positive
    by_contra below
    have breached := (breached_flat flat before last).mpr ⟨reached, positive, not_le.mp below⟩
    exact silent before last ((follows before last within).1.mpr breached)
  · intro above before last within
    refine ⟨iff_of_false (silent before last) ?_, ?_, fun _ _ => greatest_mono _⟩
    · intro breached
      obtain ⟨reached, positive, below⟩ := (breached_flat flat before last).mp breached
      exact not_le.mpr below (above before last within reached positive)
    · rw [run_flat flat, run_flat flat]

/-- The scalable stop follows its staircase over a run of profits exactly if it has a step, or
no profit from the first that reaches the base on lies below the base lock. -/
theorem scalableTsl_staircase_iff (identity : Identity) (stairs : Staircase)
    (pos : StraddlePosition) (profits : List Rat) :
    Follows identity stairs pos profits ↔
      0 < scaled identity stairs stairs.settings.tslStepProfitRs ∨
        StaysAbove identity stairs profits := by
  rcases (scaled_nonneg stairs.stepProfit).lt_or_eq with stepped | flat
  · exact iff_of_true (follows_stepped stepped pos profits) (.inl stepped)
  · rw [follows_flat flat.symm, ← flat]
    simp only [lt_irrefl, false_or]

end Stop

/-- A stop that locks ten from a profit of twenty on, without further steps. -/
def baseOnly : ExitSettings where
  step := 50
  lotSize := 1
  lotMultiplier := 1
  slCooldownMinutes := 0
  isCrypto := false
  marketOpenAt := 33300
  entryStart := 33600
  entryCutoff := 53100
  forceExit := 54900
  maxTrades := 5
  guardrailPnlEnabled := false
  guardrailPnlTargetPts := 0
  guardrailPnlSlPts := 0
  dayExitBasis := .ltp
  dayProfitTargetPct := 0
  dayLossSlPct := 0
  trailSlEnabled := false
  trailBasis := .ltp
  trailLockPct := 0
  trailFloorPct := 0
  ltpDecayEnabled := false
  ltpExitMin := 0
  ratioThreshold := 0
  tslEnabled := true
  tslBasis := .ltp
  tslBaseProfitRs := 20
  tslBaseLockRs := 10
  tslStepProfitRs := 0
  tslStepLockRs := 0
  guardrailRocEnabled := false
  guardrailRocTf := 5
  guardrailRocLength := 9
  guardrailRocTarget := 0
  guardrailRocStoploss := 0
  vwapRiseEnabled := false
  vwapRiseThreshold := 0
  exitRules := false
  exitRulesTf := 1

theorem baseOnly_nonneg :
    0 ≤ baseOnly.lotMultiplier ∧ 0 ≤ baseOnly.tslBaseProfitRs ∧ 0 ≤ baseOnly.tslBaseLockRs ∧
      0 ≤ baseOnly.tslStepProfitRs ∧ 0 ≤ baseOnly.tslStepLockRs := by
  decide

def baseStairs : Staircase :=
  ⟨baseOnly, baseOnly_nonneg.1, baseOnly_nonneg.2.1, baseOnly_nonneg.2.2.1, baseOnly_nonneg.2.2.2.1,
    baseOnly_nonneg.2.2.2.2⟩

def niftyBook : Identity := ⟨"NIFTY", "c1", "b1"⟩

def soldStraddle : StraddlePosition where
  underlying := "NIFTY"
  atmAtEntry := 100
  entrySpot := 100
  ceLeg := { strike := 100, entryPrice := 50, ltp := 50 }
  peLeg := { strike := 100, entryPrice := 50, ltp := 50 }
  netCredit := 100

/-- The profit reaches thirty and falls to five, below the base lock. -/
theorem baseOnly_never_fires : ¬Follows niftyBook baseStairs soldStraddle [30, 5] := by
  intro follows
  have breached : Breached niftyBook baseStairs [30] 5 :=
    (breached_flat (by decide +kernel) [30] 5).mpr
      ⟨⟨30, List.mem_cons_self, by decide +kernel⟩, by decide +kernel, by decide +kernel⟩
  have fired := (follows [30] 5 (List.prefix_refl _)).1.mpr breached
  exact absurd fired (by decide +kernel)

end OptionChain.StaircaseStops
