import OptionChain.BalancedPair
import OptionChain.EntryRatio
import OptionChain.Runs

/-!
# The priming wait of a session

A book enters no position before its indicators have warmed up. Each of its two lists of
rules has a wait of its own, but one flag remembers for both that the wait is over: the
list that is ready first lifts the wait of the other one. The wait of a list is doubled for
a rule on a slope, unless the slope is an operand of an advanced rule.

`eval_ruleset_waits_iff` says in which runs, and for which two lists, no position is opened
too early. The texts that only the log reads are left out.
-/

namespace OptionChain.SessionPriming

open Broker Runs RuleEvaluation StraddleSelection
open EntryRatio (Evaluation evalRuleset evalRuleset_iff selected rulePass)

/-- What `r.get("tf")` finds: nothing, a value that is empty, a number, a text that `int`
reads as a number, or one that it does not. -/
inductive TfField where
  | absent
  | empty
  | number (tf : Int)
  | text (tf : Int)
  | word

/-- `if r.get("tf")`. -/
def TfField.truthy : TfField → Bool
  | .absent | .empty => false
  | .number tf => decide (tf ≠ 0)
  | .text _ | .word => true

/-- `int` of the field, with the default for a missing one, unless it raises. -/
def TfField.int : TfField → Option Int
  | .absent => some 1
  | .number tf | .text tf => some tf
  | .empty | .word => none

/-- A rule as it is configured. -/
structure EntryRule where
  rule : Rule
  tfField : TfField

/-- What the evaluator reads of it. -/
def EntryRule.evaluated (entry : EntryRule) : Rule := { entry.rule with tf := entry.tfField.int }

def slopeNames : List String := ["slope", "vwap_slope", "slope_curr", "slope_prev"]

/-- `has_slope`. -/
def hasSlope (rules : List EntryRule) : Bool :=
  (rules.filter fun entry => decide (entry.rule.indicator.toLower ≠ "advanced")).any
    fun entry => decide (entry.rule.indicator.toLower ∈ slopeNames)

/-- `max(tfs) if tfs else 1`. -/
def maxTf (tfs : List Int) : Int := tfs.max?.getD 1

/-- `_priming_wait_minutes`, unless a timeframe is no number. -/
def primingWaitMinutes (rules : List EntryRule) : Option Int :=
  if rules.isEmpty then some 0
  else
    match ((rules.map EntryRule.tfField).filter TfField.truthy).mapM TfField.int with
    | none => none
    | some tfs => some (maxTf tfs * if hasSlope rules then 2 else 1)

/-- `timedelta(minutes=n)`, in microseconds. -/
def minutes (n : Int) : Int := n * 60000000

inductive RuleKey where
  | beginning
  | reentry
deriving DecidableEq

/-- What stays as it is in a session: the market open, the two lists, and what the language
makes of a text that is no formula. -/
structure Session where
  marketOpen : Int
  entryRulesBeginning : List EntryRule
  entryRulesReentry : List EntryRule
  evalText : List Piece → Bool

/-- An entry evaluation: its clock, its list, and the premiums and indicators at that time. -/
structure Entry where
  now : Int
  ruleKey : RuleKey
  pool : Pool
  maxEntryRatio : Rat
  indByTf : Int → Int → IndicatorMap

section Session

variable (session : Session)

def Session.rules : RuleKey → List EntryRule
  | .beginning => session.entryRulesBeginning
  | .reentry => session.entryRulesReentry

/-- `_is_primed`: what it answers, and what the flag is from then on. The answer is no when
the wait raises. -/
def isPrimed (primed : Bool) (now : Int) (rules : List EntryRule) : Bool :=
  if primed then true
  else
    match primingWaitMinutes rules with
    | none => false
    | some waitMin =>
        if waitMin = 0 then true
        else decide (session.marketOpen + minutes waitMin ≤ now)

/-- What an evaluation is given when the flag answers so. -/
def evaluation (entry : Entry) (primed : Bool) : Evaluation where
  pool := entry.pool
  useBeginningSel := decide (entry.ruleKey = .beginning)
  maxEntryRatio := entry.maxEntryRatio
  primed := primed
  rules := (session.rules entry.ruleKey).map EntryRule.evaluated
  indByTf := entry.indByTf
  evalText := session.evalText

/-- `_eval_ruleset`: the pair that it opens a position on. -/
def opened (primed : Bool) (entry : Entry) : Option Pair :=
  evalRuleset (evaluation session entry
    (isPrimed session primed entry.now (session.rules entry.ruleKey)))

/-- The flag after an evaluation. -/
def step (primed : Bool) (entry : Entry) : Bool :=
  isPrimed session primed entry.now (session.rules entry.ruleKey)

end Session

/-! ## The law and the conditions -/

/-- A rule that reads a slope, as its indicator or as an operand. -/
def ReadsSlope (entry : EntryRule) : Prop := ∃ operand ∈ entry.rule.operands, operand ∈ slopeNames

instance (entry : EntryRule) : Decidable (ReadsSlope entry) :=
  inferInstanceAs (Decidable (∃ operand ∈ entry.rule.operands, operand ∈ slopeNames))

/-- The wait of a list of its own: its largest timeframe, doubled when a rule reads a
slope. -/
def ownWait (rules : List EntryRule) : Int :=
  if rules.isEmpty then 0
  else
    maxTf (((rules.map EntryRule.tfField).filter TfField.truthy).filterMap TfField.int) *
      if ∃ entry ∈ rules, ReadsSlope entry then 2 else 1

section Conditions

variable (session : Session)

/-- The own wait of the list of an evaluation is over. -/
def Waited (entry : Entry) : Prop :=
  session.marketOpen + minutes (ownWait (session.rules entry.ruleKey)) ≤ entry.now

/-- A position is opened only after the own wait of its list. -/
def Lawful (primed : Bool) (entry : Entry) : Prop :=
  (opened session primed entry).isSome = true → Waited session entry

/-- A pair is selected, and the rules pass for it. -/
def Passes (entry : Entry) : Prop :=
  ∃ pair, selected (evaluation session entry true) = some pair ∧
    rulePass (evaluation session entry true) pair.ceStrike pair.peStrike = true

/-- The list of an evaluation is empty, or has had the wait that is computed for it. -/
def Ready (entry : Entry) : Prop :=
  ∃ waitMin, primingWaitMinutes (session.rules entry.ruleKey) = some waitMin ∧
    (waitMin = 0 ∨ session.marketOpen + minutes waitMin ≤ entry.now)

/-- Where a pair passes before the own wait of its list, no list is ready yet. -/
def NoneReady (entries : List Entry) : Prop :=
  ∀ before entry after, entries = before ++ entry :: after →
    Passes session entry → ¬ Waited session entry →
      ∀ earlier ∈ before ++ [entry], ¬ Ready session earlier

/-- Some indicators pass the rules. -/
def Passable (rules : List EntryRule) : Prop :=
  ∃ map, evalRules session.evalText (rules.map EntryRule.evaluated) map = true

/-- No computed wait is zero or ends before the own wait of a list that can pass. -/
def Covered : Prop :=
  ∀ key, Passable session (session.rules key) → ∀ other waitMin,
    primingWaitMinutes (session.rules other) = some waitMin →
      waitMin ≠ 0 ∧ ownWait (session.rules key) ≤ waitMin

end Conditions

/-! ## The flag -/

section Flag

variable {session : Session}

theorem step_iff {primed : Bool} {entry : Entry} :
    step session primed entry = true ↔ primed = true ∨ Ready session entry := by
  rw [step, isPrimed, Ready]
  cases primed with
  | true => simp
  | false =>
    cases waits : primingWaitMinutes (session.rules entry.ruleKey) with
    | none => simp
    | some waitMin =>
      simp only [Bool.false_eq_true, if_false, false_or, Option.some.injEq, exists_eq_left']
      by_cases zero : waitMin = 0
      · rw [if_pos zero]
        exact ⟨fun _ => .inl zero, fun _ => rfl⟩
      · rw [if_neg zero, decide_eq_true_eq, or_iff_right zero]

/-- The flag says whether a list was ready when it was evaluated, whichever list it was. -/
theorem run_primed (primed : Bool) (entries : List Entry) :
    run (step session) primed entries = true ↔
      primed = true ∨ ∃ entry ∈ entries, Ready session entry := by
  induction entries generalizing primed with
  | nil => simp
  | cons entry rest inductionHypothesis =>
    rw [run_cons, inductionHypothesis, step_iff, or_assoc, List.exists_mem_cons_iff]

theorem opened_iff {primed : Bool} {entry : Entry} :
    (opened session primed entry).isSome = true ↔
      step session primed entry = true ∧ Passes session entry := by
  rw [Option.isSome_iff_exists, opened]
  simp only [evalRuleset_iff]
  exact exists_and_left

end Flag

/-- In a run no position is opened too early exactly if no list is ready yet where a pair
passes too early. -/
theorem along_lawful_iff (session : Session) (entries : List Entry) :
    Along (step session) (Lawful session) false entries ↔ NoneReady session entries := by
  rw [along_split]
  refine forall_congr' fun before => forall_congr' fun entry => forall_congr' fun after =>
    imp_congr_right fun _ => ?_
  have flag : step session (run (step session) false before) entry = true ↔
      ∃ earlier ∈ before ++ [entry], Ready session earlier := by
    rw [← run_nil (step session) (step session _ entry), ← run_cons, ← run_append, run_primed]
    simp
  rw [Lawful, opened_iff, flag]
  constructor
  · intro lawful passes early earlier member ready
    exact early (lawful ⟨⟨earlier, member, ready⟩, passes⟩)
  · rintro none ⟨⟨earlier, member, ready⟩, passes⟩
    by_contra early
    exact none passes early earlier member ready

/-! ## The two lists -/

/-- A pair that passes is one that passes the rules of its list. -/
theorem Passes.passable {session : Session} {entry : Entry} (passes : Passes session entry) :
    Passable session (session.rules entry.ruleKey) := by
  obtain ⟨pair, _, holds⟩ := passes
  exact ⟨_, holds⟩

/-- Where every computed wait covers, no list is ready too early. -/
theorem Covered.noneReady {session : Session} (covered : Covered session) {entries : List Entry}
    (forward : entries.Pairwise fun first second => first.now ≤ second.now) :
    NoneReady session entries := by
  rintro before entry after rfl passes early earlier member ⟨waitMin, waits, elapsed⟩
  obtain ⟨positive, long⟩ := covered _ passes.passable _ _ waits
  have clock : earlier.now ≤ entry.now := by
    rw [List.mem_append, List.mem_singleton] at member
    rcases member with inside | rfl
    · exact (List.pairwise_append.mp forward).2.2 earlier inside entry List.mem_cons_self
    · exact le_refl _
  apply early
  rw [Waited]
  rcases elapsed with zero | elapsed
  · exact absurd zero positive
  · rw [minutes] at elapsed ⊢
    omega

section Opening

variable {session : Session} {key : RuleKey} {map : IndicatorMap}

/-- An evaluation at some time, of two cached pairs around 100 and the same indicators for
each of them. -/
def aroundHundredAt (now : Int) (key : RuleKey) (map : IndicatorMap) : Entry where
  now := now
  ruleKey := key
  pool := BalancedPair.aroundHundred
  maxEntryRatio := 0
  indByTf _ _ := map

theorem aroundHundred_beginning :
    ∃ pair, selectBalancedPair BalancedPair.aroundHundred = some pair := by
  have looped := (@BalancedPair.partnerLoop_isSome BalancedPair.aroundHundred 50 rfl .ce 50).mpr
    ⟨150, 45, BalancedPair.aroundHundred_partner⟩
  obtain ⟨best, found⟩ := Option.isSome_iff_exists.mp looped
  refine ⟨anchored BalancedPair.aroundHundred .pe 50 best,
    (BalancedPair.selectBalancedPair_some_iff BalancedPair.aroundHundred_priced).mpr
      ⟨.pe, 50, BalancedPair.aroundHundred_anchor, ?_⟩⟩
  rw [OptType.other, found]
  rfl

/-- A leg without intrinsic value may be sold. -/
theorem aroundHundred_tradable {side : OptType} {i strike : Int} {ltp : Rat} (inside : |i| ≤ 1)
    (there : strike = 100 + i * 50)
    (cached : BalancedPair.aroundHundred.strikePrem.lookup (strike, side) = some ⟨ltp, ltp⟩)
    (dear : 30 ≤ ltp) (outside : stripIntrinsic ltp side strike 101 = ltp) :
    Tradable BalancedPair.aroundHundred side strike ltp := by
  refine ⟨⟨i, inside, ?_⟩, ⟨_, cached, rfl⟩, by linarith, ?_⟩
  · rw [@BalancedPair.strikeAt_eq _ 50 rfl, BalancedPair.aroundHundred_atm, there]
  · exact BalancedPair.aroundHundred_floor dear outside

/-- The scan may choose the call at 150 and the put at 100. -/
theorem aroundHundred_scan {rulePass : Int → Int → Bool} (rules : rulePass 150 100 = true) :
    ∃ pair, scanPool BalancedPair.aroundHundred rulePass = some pair := by
  have stronger : atmValue BalancedPair.aroundHundred .pe ⟨50, 50⟩ <
      atmValue BalancedPair.aroundHundred .ce ⟨55, 55⟩ := by
    simp only [atmValue, BalancedPair.aroundHundred_atm, stripIntrinsic]
    norm_num [BalancedPair.aroundHundred]
  refine @EntryRatio.scanPool_exists _ _ ⟨150, 100, 45, 50⟩ ⟨⟨55, 55⟩, ⟨50, 50⟩, ?_, ?_, ?_⟩
  · rw [BalancedPair.aroundHundred_atm]
    rfl
  · rw [BalancedPair.aroundHundred_atm]
    rfl
  · rw [decide_eq_true stronger]
    refine ⟨?_, ?_, ?_, rules⟩
    · exact @aroundHundred_tradable _ 1 _ _ (by norm_num) rfl rfl (by norm_num)
        (by norm_num [stripIntrinsic])
    · exact @aroundHundred_tradable _ 0 _ _ (by norm_num) rfl rfl (by norm_num)
        (by norm_num [stripIntrinsic])
    · rw [Biased, if_pos rfl]
      norm_num

/-- Indicators that pass the rules make an evaluation pass at any time. -/
theorem passes_aroundHundredAt (now : Int)
    (holds : evalRules session.evalText ((session.rules key).map EntryRule.evaluated) map = true) :
    Passes session (aroundHundredAt now key map) := by
  cases key with
  | beginning =>
    obtain ⟨pair, found⟩ := aroundHundred_beginning
    exact ⟨pair, found, holds⟩
  | reentry =>
    obtain ⟨pair, found⟩ := @aroundHundred_scan (fun _ _ =>
      evalRules session.evalText ((session.rules .reentry).map EntryRule.evaluated) map) holds
    exact ⟨pair, found, holds⟩

end Opening

/-- Where no run opens a position too early, every computed wait covers. -/
theorem covered_of_noneReady {session : Session} (none : ∀ entries : List Entry,
    entries.Pairwise (fun first second => first.now ≤ second.now) → NoneReady session entries) :
    Covered session := by
  rintro key ⟨map, holds⟩ other waitMin waits
  have never (now : Int)
      (early : now < session.marketOpen + minutes (ownWait (session.rules key))) :
      ¬ (waitMin = 0 ∨ session.marketOpen + minutes waitMin ≤ now) := by
    intro elapsed
    refine none [aroundHundredAt now other map, aroundHundredAt now key map] ?_
      [aroundHundredAt now other map] _ [] rfl (passes_aroundHundredAt now holds)
      (not_le.mpr early) (aroundHundredAt now other map) ?_ ⟨waitMin, waits, elapsed⟩
    · simp [aroundHundredAt]
    · simp
  constructor
  · intro zero
    exact never _ (Int.sub_one_lt_of_le (le_refl _)) (.inl zero)
  · by_contra short
    refine never (session.marketOpen + minutes waitMin) ?_ (.inr (le_refl _))
    rw [minutes, minutes]
    omega

/-- In a run no position is opened before the own wait of its list exactly if, where a pair
passes before it, no list is ready yet. Two lists open no position too early, in every run
with a clock that does not go back, exactly if no computed wait is zero or ends before the own
wait of a list that can pass. -/
theorem eval_ruleset_waits_iff (session : Session) :
    (∀ entries, Along (step session) (Lawful session) false entries ↔
      NoneReady session entries) ∧
    ((∀ entries : List Entry, entries.Pairwise (fun first second => first.now ≤ second.now) →
      Along (step session) (Lawful session) false entries) ↔ Covered session) := by
  refine ⟨along_lawful_iff session, ?_⟩
  constructor
  · intro lawful
    apply covered_of_noneReady
    intro entries forward
    exact (along_lawful_iff session entries).mp (lawful entries forward)
  · intro covered entries forward
    exact (along_lawful_iff session entries).mpr (covered.noneReady forward)

/-- A rule on the premium at some timeframe. -/
def closeBelow (tf : Int) : EntryRule where
  rule := { indicator := "close", operatorSym := "<", threshold := 100 }
  tfField := .number tf

/-- The market opens at 9:15; the beginning rule waits five minutes, the re-entry one half an
hour. -/
def fiveAndThirty : Session where
  marketOpen := minutes 555
  entryRulesBeginning := [closeBelow 5]
  entryRulesReentry := [closeBelow 30]
  evalText _ := false

theorem close_lower : "close".toLower = "close" := by
  apply String.toList_injective
  change (String.map Char.toLower "close").toList = _
  simp

def indicators (close : Rat) : Indicators := AList.insert "close" close ∅

def closeAt (close : Rat) : IndicatorMap := .flat (indicators close)

/-- The beginning rule is blocked at 9:20:05, and the re-entry rule passes at 9:30:05. -/
def blockedThenPassed : List Entry :=
  [aroundHundredAt (minutes 560 + 5000000) .beginning (closeAt 110),
    aroundHundredAt (minutes 570 + 5000000) .reentry (closeAt 95)]

theorem close_passes : evalRules fiveAndThirty.evalText
    ((fiveAndThirty.rules .reentry).map EntryRule.evaluated) (closeAt 95) = true := by
  have advanced : (closeBelow 30).evaluated.indicator.toLower ≠ "advanced" := by
    change "close".toLower ≠ "advanced"
    rw [close_lower]
    decide
  have found : ((closeAt 95).deciding 30).lookup "close".toLower = some 95 := by
    rw [close_lower, deciding_absent (by rfl)]
    rfl
  have below : passed (closeAt 95) (closeBelow 30).evaluated = true := by
    change met ((closeAt 95).deciding 30) _ = true
    rw [met_plain advanced found]
    change RuleEvaluation.compare 95 100 "<" = true
    rw [RuleEvaluation.compare, if_neg (by decide), if_pos rfl]
    norm_num
  simp only [fiveAndThirty, Session.rules, List.map_cons, List.map_nil, evalRules, pieces,
    rulePieces, below]
  decide

theorem ownWait_fiveAndThirty : 30 ≤ ownWait (fiveAndThirty.rules .reentry) := by
  have long : maxTf (((fiveAndThirty.entryRulesReentry.map EntryRule.tfField).filter
      TfField.truthy).filterMap TfField.int) = 30 := rfl
  rw [ownWait, if_neg (by decide), Session.rules, long]
  split <;> decide

theorem primingWaitMinutes_fiveAndThirty :
    primingWaitMinutes (fiveAndThirty.rules .beginning) = some 5 := by
  have level : hasSlope fiveAndThirty.entryRulesBeginning = false := by
    simp [hasSlope, fiveAndThirty, closeBelow, close_lower, slopeNames]
  rw [primingWaitMinutes, if_neg (by decide), Session.rules, level]
  rfl

/-- The beginning list has waited when the re-entry list still has fifteen minutes to wait. -/
theorem reentry_before_its_wait :
    ¬ ∀ session entries, Along (step session) (Lawful session) false entries := by
  intro lawful
  have none := (along_lawful_iff _ _).mp (lawful fiveAndThirty blockedThenPassed)
  refine none [_] _ [] rfl (passes_aroundHundredAt _ close_passes) ?_
    (aroundHundredAt (minutes 560 + 5000000) .beginning (closeAt 110)) ?_
    ⟨5, primingWaitMinutes_fiveAndThirty, .inr ?_⟩
  · have long := ownWait_fiveAndThirty
    rw [Waited, not_le]
    change minutes 570 + 5000000 < minutes 555 + minutes (ownWait (fiveAndThirty.rules .reentry))
    rw [minutes, minutes, minutes]
    omega
  · simp
  · simp [minutes, fiveAndThirty, aroundHundredAt]

end OptionChain.SessionPriming
