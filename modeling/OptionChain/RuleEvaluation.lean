import Mathlib.Algebra.Order.Ring.Rat
import Mathlib.Data.List.AList
import OptionChain.BracketedFormulas

/-!
# The rules of the rule builder

A rule compares an indicator with a threshold or another indicator, at its own
timeframe. The evaluator joins the outcomes with the connectives and brackets of the
rules and leaves the text to the language. Where the map has no entry for a timeframe
it falls back to the one-minute indicators, so deleting a timeframe can turn a rule
that was not met into one that is.

`evalRules_timeframes` says which indicators decide a rule, and which deletions let
the result only fall. The texts of the reasons, which only the log reads, are left out.
-/

namespace OptionChain.RuleEvaluation

open BracketedFormulas

/-- The fields of a rule that the evaluator reads, with its defaults; no timeframe is one
that is not a number. -/
structure Rule where
  indicator : String := ""
  operatorSym : String := "<"
  threshold : Rat := 0
  operand1 : String := ""
  operand2 : String := ""
  operand2Val : Rat := 0
  tf : Option Int := some 1
  openBrackets : String := ""
  closeBrackets : String := ""
  operator : String := ""

def Rule.timeframe (rule : Rule) : Int := rule.tf.getD 1

/-- Indicator values by operand. -/
abbrev Indicators := AList (fun _ : String => Rat)

/-- `ind_by_tf`: a map for each timeframe, or the values of a single one. -/
inductive IndicatorMap where
  | byTf (maps : AList (fun _ : Int => Indicators))
  | flat (ind : Indicators)

/-- A flat map that holds anything is one for one minute. -/
def IndicatorMap.maps : IndicatorMap → AList (fun _ : Int => Indicators)
  | .byTf maps => maps
  | .flat ind => if ind.keys = [] then ∅ else AList.insert 1 ind ∅

/-- `ind_by_tf.get(1, {})`. -/
def IndicatorMap.oneMinute (map : IndicatorMap) : Indicators := (map.maps.lookup 1).getD ∅

/-- `ind_by_tf.get(_tf) or ind_by_tf.get(1, {})`. -/
def IndicatorMap.deciding (map : IndicatorMap) (tf : Int) : Indicators :=
  match map.maps.lookup tf with
  | some ind => if ind.keys = [] then map.oneMinute else ind
  | none => map.oneMinute

/-- `_compare`. -/
def compare (v1 v2 : Rat) (sym : String) : Bool :=
  if sym = ">" then decide (v2 < v1)
  else if sym = "<" then decide (v1 < v2)
  else if sym = ">=" then decide (v2 ≤ v1)
  else if sym = "<=" then decide (v1 ≤ v2)
  else if sym = "==" then decide (|v1 - v2| < 1 / 1000000000)
  else false

/-- Whether indicator values meet a rule. -/
def met (ind : Indicators) (rule : Rule) : Bool :=
  let indicator := rule.indicator.toLower
  if indicator = "advanced" then
    let op1 := rule.operand1.toLower
    let op2 := rule.operand2.toLower
    let v1 := ind.lookup op1
    let v2 := if op2 = "value" then some rule.operand2Val else ind.lookup op2
    match v1, v2 with
    | some v1, some v2 => compare v1 v2 rule.operatorSym
    | _, _ => false
  else
    match ind.lookup indicator with
    | some val => compare val rule.threshold rule.operatorSym
    | none => false

def passed (map : IndicatorMap) (rule : Rule) : Bool := met (map.deciding rule.timeframe) rule

/-- What stands between two blanks of the text. -/
inductive Piece where
  | opening (bracket : Char)
  | closing (bracket : Char)
  | value (holds : Bool)
  | conj
  | disj

def connective (rule : Rule) : Piece :=
  let op := (if rule.operator = "" then "AND" else rule.operator).toUpper
  if op = "AND" then .conj else .disj

def rulePieces (map : IndicatorMap) (rule : Rule) : List Piece :=
  rule.openBrackets.toList.map .opening ++ .value (passed map rule) ::
    rule.closeBrackets.toList.map .closing

def pieces (map : IndicatorMap) : List Rule → List Piece
  | [] => []
  | [last] => rulePieces map last
  | rule :: next :: rest => rulePieces map rule ++ connective rule :: pieces map (next :: rest)

/-- The token of a piece, unless its bracket is another one. -/
def Piece.token? : Piece → Option Token
  | .opening bracket => if bracket = '(' then some .opening else none
  | .closing bracket => if bracket = ')' then some .closing else none
  | .value holds => some (.value holds)
  | .conj => some .conj
  | .disj => some .disj

/-- `_eval_rules`. Round brackets make a formula; `evalText` is what the language makes of
a text with other characters in the place of brackets. A text that raises does not hold. -/
def evalRules (evalText : List Piece → Bool) (rules : List Rule) (map : IndicatorMap) : Bool :=
  if rules.isEmpty then true
  else
    match (pieces map rules).mapM Piece.token? with
    | some text => (evaluate text).getD false
    | none => evalText (pieces map rules)

/-- A rule with round brackets, turned the way of their place. -/
def Rule.Plain (rule : Rule) : Prop :=
  (∀ bracket ∈ rule.openBrackets.toList, bracket = '(') ∧
    ∀ bracket ∈ rule.closeBrackets.toList, bracket = ')'

/-- The operands that a rule reads. -/
def Rule.operands (rule : Rule) : List String :=
  if rule.indicator.toLower = "advanced" then
    if rule.operand2.toLower = "value" then [rule.operand1.toLower]
    else [rule.operand1.toLower, rule.operand2.toLower]
  else [rule.indicator.toLower]

/-- Every value of the smaller map is in the larger one. -/
def Within (small large : Indicators) : Prop :=
  ∀ operand value, small.lookup operand = some value → large.lookup operand = some value

/-- A map from which values or timeframes have been deleted. -/
def Reduced (small large : IndicatorMap) : Prop :=
  ∀ tf ind, small.maps.lookup tf = some ind →
    ∃ more, large.maps.lookup tf = some more ∧ Within ind more

/-- A deletion that keeps a rule with its timeframe: the timeframe was not in the map, it
still has a value, or the one-minute values that are left do not meet the rule. -/
def Keeps (small large : IndicatorMap) (rule : Rule) : Prop :=
  large.maps.lookup rule.timeframe = none ∨
    (∃ ind, small.maps.lookup rule.timeframe = some ind ∧ ind.keys ≠ []) ∨
    met small.oneMinute rule = false

/-! ## One rule -/

/-- A rule with a missing operand is not met. -/
theorem met_missing {ind : Indicators} {rule : Rule} {operand : String}
    (reads : operand ∈ rule.operands) (missing : ind.lookup operand = none) :
    met ind rule = false := by
  rw [Rule.operands] at reads
  simp only [met]
  split at reads
  case isTrue advanced =>
    rw [if_pos advanced]
    split at reads
    case isTrue fixed =>
      rw [List.mem_singleton] at reads
      rw [if_pos fixed, ← reads, missing]
    case isFalse other =>
      rw [if_neg other]
      rcases List.mem_pair.mp reads with rfl | rfl
      · rw [missing]
      · rw [missing]
        cases ind.lookup rule.operand1.toLower <;> rfl
  case isFalse simple =>
    rw [List.mem_singleton] at reads
    rw [if_neg simple, ← reads, missing]

/-- A rule that is not advanced compares its indicator with its threshold. -/
theorem met_plain {ind : Indicators} {rule : Rule} {val : Rat}
    (plain : rule.indicator.toLower ≠ "advanced")
    (found : ind.lookup rule.indicator.toLower = some val) :
    met ind rule = compare val rule.threshold rule.operatorSym := by
  simp only [met]
  rw [if_neg plain, found]

/-- A rule that is met keeps its values, and is still met, in a larger map. -/
theorem met_within {small large : Indicators} (within : Within small large) {rule : Rule}
    (holds : met small rule = true) : met large rule = true := by
  have present {operand : String} (reads : operand ∈ rule.operands) :
      large.lookup operand = small.lookup operand := by
    cases found : small.lookup operand with
    | none =>
      rw [met_missing reads found] at holds
      cases holds
    | some value => exact within operand value found
  simp only [met] at holds ⊢
  split at holds
  case isTrue advanced =>
    rw [if_pos advanced]
    by_cases fixed : rule.operand2.toLower = "value"
    · rw [if_pos fixed] at holds ⊢
      rw [present (by simp [Rule.operands, advanced, fixed])]
      exact holds
    · rw [if_neg fixed] at holds ⊢
      rw [present (by simp [Rule.operands, advanced, fixed]),
        present (by simp [Rule.operands, advanced, fixed])]
      exact holds
  case isFalse simple =>
    rw [if_neg simple, present (by simp [Rule.operands, simple])]
    exact holds

theorem deciding_own {map : IndicatorMap} {tf : Int} {ind : Indicators}
    (own : map.maps.lookup tf = some ind) (valued : ind.keys ≠ []) : map.deciding tf = ind := by
  rw [IndicatorMap.deciding, own]
  exact if_neg valued

theorem deciding_absent {map : IndicatorMap} {tf : Int} (absent : map.maps.lookup tf = none) :
    map.deciding tf = map.oneMinute := by rw [IndicatorMap.deciding, absent]

/-- What decides a rule is the map of its timeframe or the one-minute map. -/
theorem deciding_cases (map : IndicatorMap) (tf : Int) :
    (∃ ind, map.maps.lookup tf = some ind ∧ ind.keys ≠ [] ∧ map.deciding tf = ind) ∨
      map.deciding tf = map.oneMinute := by
  cases own : map.maps.lookup tf with
  | none => exact .inr (deciding_absent own)
  | some ind =>
    by_cases empty : ind.keys = []
    · rw [IndicatorMap.deciding, own]
      exact .inr (if_pos empty)
    · exact .inl ⟨ind, rfl, empty, deciding_own own empty⟩

theorem Within.valued {small large : Indicators} (within : Within small large)
    (valued : small.keys ≠ []) : large.keys ≠ [] := by
  obtain ⟨operand, member⟩ := List.exists_mem_of_ne_nil _ valued
  obtain ⟨value, found⟩ := Option.isSome_iff_exists.mp
    (AList.lookup_isSome.mpr (AList.mem_keys.mpr member))
  exact List.ne_nil_of_mem (AList.mem_keys.mp
    (AList.lookup_isSome.mp (Option.isSome_iff_exists.mpr ⟨value, within _ _ found⟩)))

section Deletion

variable {small large : IndicatorMap} (reduced : Reduced small large)
include reduced

theorem Reduced.oneMinute : Within small.oneMinute large.oneMinute := by
  rw [IndicatorMap.oneMinute, IndicatorMap.oneMinute]
  cases found : small.maps.lookup 1 with
  | none =>
    intro operand value nothing
    cases nothing
  | some ind =>
    obtain ⟨more, there, within⟩ := reduced 1 ind found
    rw [there]
    exact within

/-- A deletion that keeps a rule with its timeframe lets it only fall. -/
theorem passed_reduced {rule : Rule} (keeps : Keeps small large rule)
    (holds : passed small rule = true) : passed large rule = true := by
  rw [passed] at holds ⊢
  rcases deciding_cases small rule.timeframe with ⟨ind, own, valued, decided⟩ | fallback
  · obtain ⟨more, there, within⟩ := reduced _ ind own
    rw [decided] at holds
    rw [deciding_own there (within.valued valued)]
    exact met_within within holds
  · rw [fallback] at holds
    rcases keeps with absent | ⟨ind, own, valued⟩ | unmet
    · rw [deciding_absent absent]
      exact met_within reduced.oneMinute holds
    · obtain ⟨more, there, within⟩ := reduced _ ind own
      rw [← fallback, deciding_own own valued] at holds
      rw [deciding_own there (within.valued valued)]
      exact met_within within holds
    · rw [unmet] at holds
      cases holds

end Deletion

/-! ## The text of the rules -/

/-- The same piece, with an outcome that may rise. -/
def Piece.Rises : Piece → Piece → Prop
  | .value a, .value b => a = true → b = true
  | a, b => a = b

theorem Piece.Rises.refl (piece : Piece) : piece.Rises piece := by
  cases piece with
  | value holds => exact id
  | _ => rfl

theorem Piece.Rises.token {low high : Piece} (rises : low.Rises high) {token : Token}
    (read : low.token? = some token) :
    ∃ higher, high.token? = some higher ∧ token.Rises higher := by
  cases low with
  | value a =>
    cases high with
    | value b =>
      cases read
      exact ⟨.value b, rfl, rises⟩
    | _ => cases rises
  | _ =>
    cases rises
    refine ⟨token, read, ?_⟩
    cases token with
    | value a => exact id
    | _ => rfl

theorem tokens_rise {low high : List Piece} (rises : List.Forall₂ Piece.Rises low high) :
    ∀ {text : List Token}, low.mapM Piece.token? = some text →
      ∃ higher, high.mapM Piece.token? = some higher ∧ List.Forall₂ Token.Rises text higher := by
  induction rises with
  | nil =>
    intro text read
    cases read
    exact ⟨[], rfl, .nil⟩
  | cons first _ inductionHypothesis =>
    intro text read
    simp only [List.mapM_cons, Option.bind_eq_bind, Option.bind_eq_some_iff, Option.pure_def,
      Option.some.injEq] at read ⊢
    obtain ⟨token, firstRead, rest, restRead, rfl⟩ := read
    obtain ⟨token', firstRead', tokenRises⟩ := first.token firstRead
    obtain ⟨rest', restRead', restRises⟩ := inductionHypothesis restRead
    exact ⟨token' :: rest', ⟨token', firstRead', rest', restRead', rfl⟩, .cons tokenRises restRises⟩

theorem pieces_rise {small large : IndicatorMap} {rules : List Rule}
    (rises : ∀ rule ∈ rules, passed small rule = true → passed large rule = true) :
    List.Forall₂ Piece.Rises (pieces small rules) (pieces large rules) := by
  have same (fixed : List Piece) : List.Forall₂ Piece.Rises fixed fixed :=
    List.forall₂_same.mpr fun piece _ => Piece.Rises.refl piece
  have one {rule : Rule} (higher : passed small rule = true → passed large rule = true) :
      List.Forall₂ Piece.Rises (rulePieces small rule) (rulePieces large rule) :=
    List.rel_append (same _) (.cons higher (same _))
  induction rules with
  | nil => exact .nil
  | cons rule rest inductionHypothesis =>
    have first := one (rises rule List.mem_cons_self)
    cases rest with
    | nil => exact first
    | cons next rest =>
      have later := inductionHypothesis fun other member =>
        rises other (List.mem_cons_of_mem rule member)
      exact List.rel_append first (.cons (Piece.Rises.refl _) later)

theorem connective_cases (rule : Rule) : connective rule = .conj ∨ connective rule = .disj :=
  ite_eq_or_eq _ _ _

/-- Plain rules make a text of the formula language. -/
theorem tokens_plain {map : IndicatorMap} {rules : List Rule} (plain : ∀ rule ∈ rules, rule.Plain) :
    ∃ text, (pieces map rules).mapM Piece.token? = some text := by
  have one {rule : Rule} (round : rule.Plain) :
      ∀ piece ∈ rulePieces map rule, piece.token?.isSome := by
    intro piece member
    rw [rulePieces, List.mem_append, List.mem_cons, List.mem_map, List.mem_map] at member
    rcases member with ⟨bracket, opens, rfl⟩ | rfl | ⟨bracket, closes, rfl⟩
    · rw [round.1 bracket opens]
      rfl
    · rfl
    · rw [round.2 bracket closes]
      rfl
  have all : ∀ piece ∈ pieces map rules, piece.token?.isSome := by
    induction rules with
    | nil => simp [pieces]
    | cons rule rest inductionHypothesis =>
      have first := one (plain rule List.mem_cons_self)
      cases rest with
      | nil => exact first
      | cons next rest =>
        intro piece member
        rw [pieces, List.mem_append, List.mem_cons] at member
        rcases member with here | rfl | later
        · exact first piece here
        · rcases connective_cases rule with both | either
          · rw [both]
            rfl
          · rw [either]
            rfl
        · exact inductionHypothesis (fun other inside =>
            plain other (List.mem_cons_of_mem rule inside)) piece later
  generalize pieces map rules = text at all
  induction text with
  | nil => exact ⟨[], rfl⟩
  | cons piece rest inductionHypothesis =>
    obtain ⟨token, first⟩ := Option.isSome_iff_exists.mp (all piece List.mem_cons_self)
    obtain ⟨tokens, later⟩ := inductionHypothesis fun other member =>
      all other (List.mem_cons_of_mem piece member)
    exact ⟨token :: tokens, by simp [List.mapM_cons, first, later]⟩

/-- Rules hold where their text is a formula that holds. -/
theorem evalRules_formula (evalText : List Piece → Bool) {map : IndicatorMap} {rules : List Rule}
    (nonempty : rules ≠ []) {text : List Token}
    (read : (pieces map rules).mapM Piece.token? = some text) :
    evalRules evalText rules map = true ↔ Formula .disjunction text true := by
  have listed : ¬rules.isEmpty = true := by simpa using nonempty
  rw [evalRules, if_neg listed, read, ← evaluate_iff]
  change (evaluate text).getD false = true ↔ evaluate text = some true
  cases evaluate text with
  | none => simp
  | some holds => simp

/-- Plain rules that hold still hold when each outcome only rises. -/
theorem evalRules_rises (evalText : List Piece → Bool) {small large : IndicatorMap}
    {rules : List Rule} (plain : ∀ rule ∈ rules, rule.Plain)
    (rises : ∀ rule ∈ rules, passed small rule = true → passed large rule = true)
    (holds : evalRules evalText rules small = true) : evalRules evalText rules large = true := by
  by_cases empty : rules = []
  · rw [empty]
    rfl
  · obtain ⟨text, read⟩ := @tokens_plain small rules plain
    obtain ⟨higher, readHigher, tokens⟩ := tokens_rise (pieces_rise rises) read
    rw [evalRules_formula evalText empty read, ← evaluate_iff] at holds
    rw [evalRules_formula evalText empty readHigher, ← evaluate_iff]
    exact evaluate_rises tokens holds

/-- A rule is decided by the values of its own timeframe wherever there are any, and by the
one-minute values where the map has no entry for it; with a missing operand it is not met.
Plain rules that do not hold before a deletion that keeps every rule with its timeframe do
not hold after it. -/
theorem evalRules_timeframes (evalText : List Piece → Bool) (rules : List Rule)
    (map : IndicatorMap) :
    (∀ rule ∈ rules,
      (∀ ind, map.maps.lookup rule.timeframe = some ind → ind.keys ≠ [] →
        passed map rule = met ind rule) ∧
      (map.maps.lookup rule.timeframe = none → passed map rule = met map.oneMinute rule) ∧
      ∀ operand ∈ rule.operands, ∀ ind : Indicators, ind.lookup operand = none →
        met ind rule = false) ∧
    ((∀ rule ∈ rules, rule.Plain) → ∀ small, Reduced small map →
      (∀ rule ∈ rules, Keeps small map rule) →
        evalRules evalText rules map = false → evalRules evalText rules small = false) := by
  refine ⟨fun rule _ => ⟨fun ind own valued => ?_, fun absent => ?_,
    fun operand reads ind missing => met_missing reads missing⟩, ?_⟩
  · rw [passed, deciding_own own valued]
  · rw [passed, deciding_absent absent]
  · intro plain small reduced keeps fails
    by_contra holds
    rw [Bool.not_eq_false] at holds
    have still := evalRules_rises evalText plain
      (fun rule member => passed_reduced reduced (keeps rule member)) holds
    rw [fails] at still
    cases still

/-- A rule of five minutes. -/
def slowRule : Rule := { indicator := "RSI", operatorSym := "<", threshold := 55, tf := some 5 }

def bothTimeframes : IndicatorMap :=
  .byTf (AList.insert 1 (AList.insert "rsi" 40 ∅) (AList.insert 5 (AList.insert "rsi" 60 ∅) ∅))

def oneTimeframe : IndicatorMap := .byTf (AList.insert 1 (AList.insert "rsi" 40 ∅) ∅)

/-- With five minutes deleted the rule is met by the one-minute value. -/
theorem slowRule_falls_back :
    Reduced oneTimeframe bothTimeframes ∧ oneTimeframe.maps.lookup 5 = none ∧
      passed oneTimeframe slowRule = true ∧
      evalRules (fun _ => false) [slowRule] bothTimeframes = false ∧
      evalRules (fun _ => false) [slowRule] oneTimeframe = true := by
  refine ⟨?_, by decide, by decide +kernel, by decide +kernel, by decide +kernel⟩
  intro tf ind found
  by_cases one : tf = 1
  · subst one
    rw [oneTimeframe, IndicatorMap.maps, AList.lookup_insert] at found
    cases found
    exact ⟨_, AList.lookup_insert _, fun _ _ value => value⟩
  · rw [oneTimeframe, IndicatorMap.maps, AList.lookup_insert_ne one] at found
    cases found

end OptionChain.RuleEvaluation
