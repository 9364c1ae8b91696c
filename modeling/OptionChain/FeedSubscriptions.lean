import OptionChain.Remembered
import OptionChain.Runs
import OptionChain.SymbolCodec

/-!
# What the feeders stay subscribed to

Callers pass one mixture of Upstox keys and Fyers symbols to the global feeder. It keeps
a list of its own and passes every call on to the feeders that run; each picks out
what it can stream. The Fyers feeder also takes the Upstox keys of some exchanges, which
it turns into its own symbols when it subscribes but not when it unsubscribes. A
switch of the provider replaces the feeders and fills the new ones from the list.

The calls between two switches are passed on at once, so a switch is one step here. A new
connection of the Fyers feeder changes nothing that it remembers; one of the Upstox
feeder puts its index keys in front of the others.
-/

namespace OptionChain.FeedSubscriptions

open FyersSymbols Remembered Runs

section Feeders

/-- `_is_upstox_key`. -/
def isUpstoxKey (token : String) : Bool := decide ('|' ∈ token.toList)

/-- `_is_fyers_symbol`. -/
def isFyersSymbol (token : String) : Bool :=
  (["NSE:", "BSE:", "MCX:"].any fun start => start.toList.isPrefixOf token.toList) &&
    !isUpstoxKey token

/-- `_subscribed_keys`, with the index keys that connecting has put among them. -/
structure UpstoxKeys where
  index : List String
  keys : List String
deriving DecidableEq

namespace UpstoxKeys

/-- The keys that are not index keys. -/
def options (feeder : UpstoxKeys) : List String :=
  feeder.keys.filter fun key => decide (key ∉ feeder.index)

def connect (feeder : UpstoxKeys) (indexKeys : List String) : UpstoxKeys :=
  ⟨feeder.index ++ indexKeys, remember indexKeys feeder.keys⟩

/-- The new keys are picked out before the first is appended. -/
def subscribeTokens (feeder : UpstoxKeys) (tokens : List String) : UpstoxKeys :=
  let mine := tokens.filter isUpstoxKey
  { feeder with keys := feeder.keys ++ mine.filter fun token => decide (token ∉ feeder.keys) }

def resubscribeTokens (feeder : UpstoxKeys) (tokens : List String) : UpstoxKeys :=
  { feeder with keys := remember feeder.keys (tokens.filter isUpstoxKey) }

def unsubscribeTokens (feeder : UpstoxKeys) (tokens : List String) : UpstoxKeys :=
  { feeder with keys := forget feeder.keys (tokens.filter isUpstoxKey) }

end UpstoxKeys

variable (registry : LoadedRegistry)

instance (upstoxKey : String) : Decidable (convertible upstoxKey) :=
  inferInstanceAs (Decidable (_ ∨ _))

/-- The symbols that the Fyers feeder takes from a call. -/
def fyersMine (tokens : List String) : List String :=
  let converted := (tokens.filter fun token =>
    decide (convertible token) && !isFyersSymbol token).filterMap (upstoxMcxToFyers registry)
  tokens.filter isFyersSymbol ++ converted

/-- `_subscribed_tokens` after `subscribe_tokens`; the feeder has no `resubscribe_tokens`. -/
def fyersSubscribe (subscribed tokens : List String) : List String :=
  remember subscribed (fyersMine registry tokens)

def fyersUnsubscribe (subscribed tokens : List String) : List String :=
  forget subscribed (tokens.filter isFyersSymbol)

/-- The symbol under which the Fyers feeder streams a token. -/
def fyersImage (token : String) : Option String :=
  if isFyersSymbol token then some token
  else if convertible token then upstoxMcxToFyers registry token else none

end Feeders

section Global

inductive Provider where
  | upstox
  | fyers
deriving DecidableEq

/-- What is asked for at the global feeder. A connection may fail. -/
inductive Call where
  | subscribe (tokens : List String)
  | resubscribe (tokens : List String)
  | unsubscribe (tokens : List String)
  | startDual (indexKeys : List String) (upstoxConnects fyersConnects : Bool)
  | startSingle (provider : Provider) (indexKeys : List String) (connects : Bool)
  | reconnectUpstox (indexKeys : List String)

/-- The global feeder with the lists of the feeders that it passes calls on to. The
tokens that are asked for are kept beside it. -/
structure Feeds where
  asked : List String
  cachedTokens : List String
  upstox : Option UpstoxKeys
  fyers : Option (List String)
deriving DecidableEq

variable (registry : LoadedRegistry)

namespace Feeds

def passSubscribe (feeds : Feeds) (tokens : List String) : Feeds :=
  { feeds with
    upstox := feeds.upstox.map fun feeder => feeder.subscribeTokens tokens
    fyers := feeds.fyers.map fun subscribed => fyersSubscribe registry subscribed tokens }

def passResubscribe (feeds : Feeds) (tokens : List String) : Feeds :=
  { feeds with
    upstox := feeds.upstox.map fun feeder => feeder.resubscribeTokens tokens
    fyers := feeds.fyers.map fun subscribed => fyersSubscribe registry subscribed tokens }

def passUnsubscribe (feeds : Feeds) (tokens : List String) : Feeds :=
  { feeds with
    upstox := feeds.upstox.map fun feeder => feeder.unsubscribeTokens tokens
    fyers := feeds.fyers.map fun subscribed => fyersUnsubscribe subscribed tokens }

/-- New feeders, filled by `_reapply_cached_tokens`. -/
def start (feeds : Feeds) (indexKeys : List String) (upstoxConnects fyersConnects : Bool) : Feeds :=
  { feeds with
    upstox := if upstoxConnects then some ((⟨[], []⟩ : UpstoxKeys).connect indexKeys) else none
    fyers := if fyersConnects then some [] else none }.passSubscribe registry feeds.cachedTokens

end Feeds

def step (feeds : Feeds) : Call → Feeds
  | .subscribe tokens =>
      { feeds with
        asked := feeds.asked ++ tokens
        cachedTokens := remember feeds.cachedTokens tokens }.passSubscribe registry tokens
  | .resubscribe tokens =>
      { feeds with
        asked := feeds.asked ++ tokens
        cachedTokens := remember feeds.cachedTokens tokens }.passResubscribe registry tokens
  | .unsubscribe tokens =>
      { feeds with
        asked := feeds.asked.filter fun token => decide (token ∉ tokens)
        cachedTokens := forget feeds.cachedTokens tokens }.passUnsubscribe tokens
  | .startDual indexKeys upstoxConnects fyersConnects =>
      feeds.start registry indexKeys upstoxConnects fyersConnects
  | .startSingle provider indexKeys connects =>
      feeds.start registry indexKeys (connects && decide (provider = .upstox))
        (connects && decide (provider = .fyers))
  | .reconnectUpstox indexKeys =>
      { feeds with upstox := feeds.upstox.map fun feeder => feeder.connect indexKeys }

/-- Before the first call: no feeder, or the initial one, which is given no credentials
and stays unconnected, or one of another kind. -/
def opening : Option Provider → Feeds
  | none => ⟨[], [], none, none⟩
  | some .upstox => ⟨[], [], some ⟨[], []⟩, none⟩
  | some .fyers => ⟨[], [], none, some []⟩

end Global

section Exactness

variable (registry : LoadedRegistry)

/-- An Upstox feeder remembers the Upstox keys that were asked for. -/
def UpstoxExact (asked : List String) (feeder : UpstoxKeys) : Prop :=
  Lists feeder.options fun token =>
    token ∈ asked ∧ isUpstoxKey token = true ∧ token ∉ feeder.index

/-- A Fyers feeder remembers the symbols of what was asked for. -/
def FyersExact (asked subscribed : List String) : Prop :=
  Lists subscribed fun symbol => ∃ token ∈ asked, fyersImage registry token = some symbol

/-- Every feeder remembers exactly what was asked for, as far as it can stream it. -/
structure Exact (feeds : Feeds) : Prop where
  upstox : ∀ feeder ∈ feeds.upstox, UpstoxExact feeds.asked feeder
  fyers : ∀ subscribed ∈ feeds.fyers, FyersExact registry feeds.asked subscribed

/-- No Upstox key that is not asked for yet stands twice in a call to subscribe, and a call
to unsubscribe names a Fyers symbol exactly if it names every token that is asked
for and streamed under that symbol. -/
def Apt (feeds : Feeds) : Call → Prop
  | .subscribe tokens => ∀ feeder ∈ feeds.upstox,
      (tokens.filter fun token => isUpstoxKey token &&
        (decide (token ∉ feeds.asked) && decide (token ∉ feeder.index))).Nodup
  | .unsubscribe tokens => feeds.fyers ≠ none →
      ∀ symbol ∈ feeds.asked.filterMap (fyersImage registry),
        (symbol ∈ tokens ∧ isFyersSymbol symbol = true) ↔
          ∀ token ∈ feeds.asked, fyersImage registry token = some symbol → token ∈ tokens
  | .resubscribe _ | .startDual _ _ _ | .startSingle _ _ _ | .reconnectUpstox _ => True

end Exactness

section Lists

variable {registry : LoadedRegistry}

theorem mem_fyersMine {tokens : List String} {symbol : String} :
    symbol ∈ fyersMine registry tokens ↔
      ∃ token ∈ tokens, fyersImage registry token = some symbol := by
  unfold fyersMine fyersImage
  simp only [List.mem_append, List.mem_filter, List.mem_filterMap, Bool.and_eq_true,
    decide_eq_true_eq, Bool.not_eq_true']
  constructor
  · rintro (⟨member, own⟩ | ⟨token, ⟨member, key, foreign⟩, image⟩)
    · exact ⟨symbol, member, if_pos own⟩
    · exact ⟨token, member, by rw [foreign, if_neg Bool.false_ne_true, if_pos key, image]⟩
  · rintro ⟨token, member, image⟩
    cases own : isFyersSymbol token with
    | true =>
      rw [own, if_pos rfl] at image
      obtain rfl := Option.some.inj image
      exact Or.inl ⟨member, own⟩
    | false =>
      rw [own, if_neg Bool.false_ne_true] at image
      by_cases key : convertible token
      · rw [if_pos key] at image
        exact Or.inr ⟨token, ⟨member, key, own⟩, image⟩
      · rw [if_neg key] at image
        cases image

variable {asked subscribed : List String} {feeder : UpstoxKeys}

theorem upstox_subscribe_iff (exact : UpstoxExact asked feeder) (tokens : List String) :
    UpstoxExact (asked ++ tokens) (feeder.subscribeTokens tokens) ↔
      (tokens.filter fun token => isUpstoxKey token &&
        (decide (token ∉ asked) && decide (token ∉ feeder.index))).Nodup := by
  have fresh : ((tokens.filter isUpstoxKey).filter fun token => decide (token ∉ feeder.keys)).filter
      (fun key => decide (key ∉ feeder.index)) = tokens.filter fun token => isUpstoxKey token &&
        (decide (token ∉ asked) && decide (token ∉ feeder.index)) := by
    rw [List.filter_filter, List.filter_filter]
    apply List.filter_congr
    intro token _
    have known := exact.members token
    simp only [UpstoxKeys.options, List.mem_filter, decide_eq_true_eq] at known
    rw [Bool.eq_iff_iff]
    simp only [Bool.and_eq_true, decide_eq_true_eq]
    tauto
  have options : (feeder.subscribeTokens tokens).options =
      feeder.options ++ tokens.filter fun token =>
        isUpstoxKey token && (decide (token ∉ asked) && decide (token ∉ feeder.index)) := by
    rw [← fresh]
    exact List.filter_append _ _
  unfold UpstoxExact
  rw [options, ← exact.append_iff]
  · constructor <;> intro lists
    all_goals
      refine lists.congr fun token => ?_
      simp only [UpstoxKeys.subscribeTokens, List.mem_append, List.mem_filter, Bool.and_eq_true,
        decide_eq_true_eq]
      tauto
  · intro token member
    simp only [List.mem_filter, Bool.and_eq_true, decide_eq_true_eq] at member
    tauto

theorem upstox_resubscribe (exact : UpstoxExact asked feeder) (tokens : List String) :
    UpstoxExact (asked ++ tokens) (feeder.resubscribeTokens tokens) := by
  unfold UpstoxExact UpstoxKeys.options UpstoxKeys.resubscribeTokens
  rw [filter_remember]
  refine (Lists.remember exact _).congr fun token => ?_
  simp only [List.mem_append, List.mem_filter, decide_eq_true_eq]
  tauto

theorem upstox_unsubscribe (exact : UpstoxExact asked feeder) (tokens : List String) :
    UpstoxExact (asked.filter fun token => decide (token ∉ tokens))
      (feeder.unsubscribeTokens tokens) := by
  unfold UpstoxExact UpstoxKeys.options UpstoxKeys.unsubscribeTokens
  rw [filter_forget]
  refine (Lists.forget exact _).congr fun token => ?_
  simp only [List.mem_filter, decide_eq_true_eq]
  tauto

theorem upstox_connect (exact : UpstoxExact asked feeder) (indexKeys : List String) :
    UpstoxExact asked (feeder.connect indexKeys) := by
  have hidden : (feeder.connect indexKeys).options =
      remember [] (feeder.options.filter fun key => decide (key ∉ indexKeys)) := by
    unfold UpstoxKeys.options UpstoxKeys.connect
    rw [filter_remember]
    congr 1
    · apply List.filter_eq_nil_iff.mpr
      intro key member
      simp [member]
    · rw [List.filter_filter]
      apply List.filter_congr
      intro key _
      simp [and_comm]
  unfold UpstoxExact
  rw [hidden]
  refine ⟨nodup_remember List.nodup_nil, fun token => ?_⟩
  rw [mem_remember, List.mem_filter, exact.members]
  simp only [UpstoxKeys.connect, List.not_mem_nil, false_or, decide_eq_true_eq, List.mem_append,
    not_or]
  tauto

theorem fyers_subscribe (exact : FyersExact registry asked subscribed) (tokens : List String) :
    FyersExact registry (asked ++ tokens) (fyersSubscribe registry subscribed tokens) := by
  refine (Lists.remember exact _).congr fun symbol => ?_
  rw [mem_fyersMine]
  simp only [List.mem_append, or_and_right, exists_or]

theorem fyers_unsubscribe_iff (exact : FyersExact registry asked subscribed)
    (tokens : List String) :
    FyersExact registry (asked.filter fun token => decide (token ∉ tokens))
        (fyersUnsubscribe subscribed tokens) ↔
      ∀ symbol ∈ asked.filterMap (fyersImage registry),
        (symbol ∈ tokens ∧ isFyersSymbol symbol = true) ↔
          ∀ token ∈ asked, fyersImage registry token = some symbol → token ∈ tokens := by
  have after := Lists.forget exact (tokens.filter isFyersSymbol)
  -- what the list keeps of a symbol, and what should be kept of it
  have meant (symbol : String) : (∃ token ∈ asked.filter fun token => decide (token ∉ tokens),
      fyersImage registry token = some symbol) ↔
      ¬ ∀ token ∈ asked, fyersImage registry token = some symbol → token ∈ tokens := by
    push Not
    simp only [List.mem_filter, decide_eq_true_eq, and_assoc, and_comm]
  constructor
  · intro kept symbol image
    have same := (after.members symbol).symm.trans (kept.members symbol)
    have listed : ∃ token ∈ asked, fyersImage registry token = some symbol :=
      List.mem_filterMap.mp image
    rw [meant, List.mem_filter] at same
    exact not_iff_not.mp ((and_iff_right listed).symm.trans same)
  · intro apt
    refine after.congr fun symbol => ?_
    rw [meant, List.mem_filter]
    by_cases listed : ∃ token ∈ asked, fyersImage registry token = some symbol
    · rw [and_iff_right listed]
      exact not_congr (apt symbol (List.mem_filterMap.mpr listed))
    · refine iff_of_false (fun held => listed held.1) (not_not_intro ?_)
      intro token member image
      exact absurd ⟨token, member, image⟩ listed

end Lists

section Calls

variable {registry : LoadedRegistry} {feeds : Feeds}

/-- The cache holds what was asked for. -/
def Cached (feeds : Feeds) : Prop := Lists feeds.cachedTokens fun token => token ∈ feeds.asked

theorem step_cached (cached : Cached feeds) (call : Call) : Cached (step registry feeds call) := by
  cases call with
  | subscribe tokens | resubscribe tokens =>
    exact (Lists.remember cached tokens).congr fun token => List.mem_append.symm
  | unsubscribe tokens =>
    refine (Lists.forget cached tokens).congr fun token => ?_
    simp only [step, Feeds.passUnsubscribe, List.mem_filter, decide_eq_true_eq]
  | startDual _ _ _ | startSingle _ _ _ | reconnectUpstox _ => exact cached

/-- New feeders are filled with exactly what was asked for. -/
theorem start_exact (cached : Cached feeds) (indexKeys : List String)
    (upstoxConnects fyersConnects : Bool) :
    Exact registry (feeds.start registry indexKeys upstoxConnects fyersConnects) := by
  constructor
  · intro feeder running
    cases upstoxConnects with
    | false => cases running
    | true =>
      obtain rfl : (UpstoxKeys.connect ⟨[], []⟩ indexKeys).subscribeTokens feeds.cachedTokens =
          feeder := Option.some.inj running
      have bare : UpstoxExact [] ⟨[], []⟩ := ⟨List.nodup_nil, by simp [UpstoxKeys.options]⟩
      have filled := (upstox_subscribe_iff (upstox_connect bare indexKeys) feeds.cachedTokens).mpr
        (cached.nodup.filter _)
      exact filled.congr fun token => and_congr_left' (cached.members token)
  · intro subscribed running
    cases fyersConnects with
    | false => cases running
    | true =>
      obtain rfl : fyersSubscribe registry [] feeds.cachedTokens = subscribed :=
        Option.some.inj running
      have bare : FyersExact registry [] [] := ⟨List.nodup_nil, by simp⟩
      refine (fyers_subscribe bare feeds.cachedTokens).congr fun symbol => ?_
      exact exists_congr fun token => and_congr_left' (cached.members token)

/-- One call keeps the lists exact under its condition only. -/
theorem step_exact_iff (cached : Cached feeds) (exact : Exact registry feeds) (call : Call) :
    Exact registry (step registry feeds call) ↔ Apt registry feeds call := by
  cases call with
  | subscribe tokens =>
    constructor
    · intro after feeder running
      apply (upstox_subscribe_iff (exact.upstox feeder running) tokens).mp
      exact after.upstox _ (Option.mem_map_of_mem _ running)
    · intro apt
      constructor
      · intro later running
        obtain ⟨feeder, was, rfl⟩ := Option.mem_map.mp running
        exact (upstox_subscribe_iff (exact.upstox feeder was) tokens).mpr (apt feeder was)
      · intro later running
        obtain ⟨subscribed, was, rfl⟩ := Option.mem_map.mp running
        exact fyers_subscribe (exact.fyers subscribed was) tokens
  | resubscribe tokens =>
    refine iff_of_true ⟨?_, ?_⟩ trivial
    · intro later running
      obtain ⟨feeder, was, rfl⟩ := Option.mem_map.mp running
      exact upstox_resubscribe (exact.upstox feeder was) tokens
    · intro later running
      obtain ⟨subscribed, was, rfl⟩ := Option.mem_map.mp running
      exact fyers_subscribe (exact.fyers subscribed was) tokens
  | unsubscribe tokens =>
    constructor
    · intro after some
      obtain ⟨subscribed, running⟩ := Option.ne_none_iff_exists'.mp some
      apply (fyers_unsubscribe_iff (exact.fyers subscribed running) tokens).mp
      exact after.fyers _ (Option.mem_map_of_mem _ running)
    · intro apt
      constructor
      · intro later running
        obtain ⟨feeder, was, rfl⟩ := Option.mem_map.mp running
        exact upstox_unsubscribe (exact.upstox feeder was) tokens
      · intro later running
        obtain ⟨subscribed, was, rfl⟩ := Option.mem_map.mp running
        apply (fyers_unsubscribe_iff (exact.fyers subscribed was) tokens).mpr
        exact apt (Option.ne_none_iff_exists'.mpr ⟨subscribed, was⟩)
  | startDual indexKeys upstoxConnects fyersConnects =>
    exact iff_of_true (start_exact cached indexKeys upstoxConnects fyersConnects) trivial
  | startSingle provider indexKeys connects =>
    exact iff_of_true (start_exact cached indexKeys _ _) trivial
  | reconnectUpstox indexKeys =>
    refine iff_of_true ⟨?_, exact.fyers⟩ trivial
    intro later running
    obtain ⟨feeder, was, rfl⟩ := Option.mem_map.mp running
    exact upstox_connect (exact.upstox feeder was) indexKeys

/-- Before the first call nothing is asked for and nothing is remembered. -/
theorem opening_exact (provider : Option Provider) :
    Cached (opening provider) ∧ Exact registry (opening provider) := by
  have bare : UpstoxExact [] ⟨[], []⟩ := ⟨List.nodup_nil, by simp [UpstoxKeys.options]⟩
  have blank : FyersExact registry [] [] := ⟨List.nodup_nil, by simp⟩
  cases provider with
  | none => exact ⟨⟨List.nodup_nil, by simp [opening]⟩, ⟨by simp [opening], by simp [opening]⟩⟩
  | some provider =>
    cases provider with
    | upstox =>
      refine ⟨⟨List.nodup_nil, by simp [opening]⟩, ⟨?_, by simp [opening]⟩⟩
      rintro feeder ⟨⟩
      exact bare
    | fyers =>
      refine ⟨⟨List.nodup_nil, by simp [opening]⟩, ⟨by simp [opening], ?_⟩⟩
      rintro subscribed ⟨⟩
      exact blank

/-- The lists are exact after every call of a run if and only if every call meets its
condition. -/
theorem feeds_exact_iff (registry : LoadedRegistry) (provider : Option Provider)
    (calls : List Call) :
    Along (step registry) (fun feeds call => Exact registry (step registry feeds call))
        (opening provider) calls ↔
      Along (step registry) (Apt registry) (opening provider) calls := by
  obtain ⟨initially, holds⟩ : Cached (opening provider) ∧ Exact registry (opening provider) :=
    opening_exact provider
  have kept (feeds : Feeds) (call : Call) (cached : Cached feeds) (_ : Exact registry feeds) :
      Cached (step registry feeds call) := step_cached cached call
  have exact (feeds : Feeds) (call : Call) (cached : Cached feeds) (exact : Exact registry feeds) :
      Exact registry (step registry feeds call) ↔ Apt registry feeds call :=
    step_exact_iff cached exact call
  exact along_exact (step registry) kept exact _ calls initially holds

/-- An unsubscribed contract stays with the Fyers feeder, and a key given twice stays with
the Upstox feeder. -/
theorem unsubscribed_contract_remains :
    let registry := SymbolCodec.twoExpiries
    let dual := Call.startDual ["NSE_INDEX|Nifty 50"] true true
    let converted := run (step registry) (opening none)
      [dual, .subscribe ["BSE_FO|822001"], .unsubscribe ["BSE_FO|822001"]]
    let twice := run (step registry) (opening none)
      [dual, .subscribe ["NSE_FO|40001", "NSE_FO|40001"], .unsubscribe ["NSE_FO|40001"]]
    converted.asked = [] ∧ converted.fyers = some ["BSE:SENSEX26AUG80000CE"] ∧
      ¬ Exact registry converted ∧ twice.asked = [] ∧
      twice.upstox.map UpstoxKeys.options = some ["NSE_FO|40001"] ∧ ¬ Exact registry twice := by
  have converted : run (step SymbolCodec.twoExpiries) (opening none)
      [.startDual ["NSE_INDEX|Nifty 50"] true true, .subscribe ["BSE_FO|822001"],
        .unsubscribe ["BSE_FO|822001"]] =
      ⟨[], [], some ⟨["NSE_INDEX|Nifty 50"], ["NSE_INDEX|Nifty 50"]⟩,
        some ["BSE:SENSEX26AUG80000CE"]⟩ := by decide
  have twice : run (step SymbolCodec.twoExpiries) (opening none)
      [.startDual ["NSE_INDEX|Nifty 50"] true true,
        .subscribe ["NSE_FO|40001", "NSE_FO|40001"], .unsubscribe ["NSE_FO|40001"]] =
      ⟨[], [], some ⟨["NSE_INDEX|Nifty 50"], ["NSE_INDEX|Nifty 50", "NSE_FO|40001"]⟩,
        some []⟩ := by decide
  simp only [converted, twice]
  refine ⟨trivial, trivial, ?_, trivial, by decide, ?_⟩
  · intro exact
    have lists := (exact.fyers _ rfl).members "BSE:SENSEX26AUG80000CE"
    simp at lists
  · intro exact
    have lists := (exact.upstox _ rfl).members "NSE_FO|40001"
    simp [UpstoxKeys.options] at lists

end Calls

end OptionChain.FeedSubscriptions
