import Mathlib.Logic.Function.Basic
import OptionChain.BoundedDeques
import OptionChain.Indicators

/-!
# Candle series and the reset at a gap

`CandleCache` and `GapHandler` listen to the same index ticks, each from a queue of its
own, so a tick may reach either one first. The cache keeps the closed candles of every
timeframe and publishes a snapshot with each of them. The handler takes the first price of
the call auction as a reference, compares it once with the first price after the opening,
and empties the cache of the index if they differ by more than one percent.

`series_since_gap` reads a series off the ticks that the cache has seen since the reset,
`gap_opens_exact` the reset off the ticks of the handler, and `snapshots_sound` bounds all
that is ever published. The state persistence, which could refill a series, is not there
when the system runs. Nothing calls the daily reset.
-/

namespace OptionChain.GapResets

open CandleCache (Bucket CandleEvent onTick dayLength)
open Indicators Runs Ticks

section Cache

/-- `_MAX_CANDLES`. -/
def maxCandles : Nat := 600

/-- `_CandleSeries`. -/
@[ext]
structure Series where
  candles : List Bucket := []
  bucket : Option Bucket := none
deriving DecidableEq

variable (timeframe : Nat)

/-- The bucket that a tick closes. -/
def closes (bucket : Option Bucket) (tick : IndexTick) : List Bucket :=
  if (onTick timeframe bucket tick).2.isSome then bucket.toList else []

/-- The bucket after a tick. -/
def opens (bucket : Option Bucket) (tick : IndexTick) : Option Bucket :=
  (onTick timeframe bucket tick).1

/-- `on_tick`, with the candle that is closed. -/
def Series.onTick (series : Series) (tick : IndexTick) : Series × Option CandleEvent :=
  ({ candles := (closes timeframe series.bucket tick).foldl
      (BoundedDeques.append maxCandles) series.candles
     bucket := opens timeframe series.bucket tick },
    (CandleCache.onTick timeframe series.bucket tick).2)

/-- The series that some ticks make: the last closed candles, and the open one. -/
def seriesOf (ticks : List IndexTick) : Series where
  candles := (sent (opens timeframe) (closes timeframe) none ticks).rtake maxCandles
  bucket := run (opens timeframe) none ticks

end Cache

section Gap

/-- 9:08:00 in microseconds of the day. -/
def preOpenCapture : Int := (9 * 60 + 8) * 60 * 10 ^ 6

/-- 9:15:01. -/
def marketOpenCheck : Int := ((9 * 60 + 15) * 60 + 1) * 10 ^ 6

def gapThreshold : Rat := 1 / 100

structure GapState where
  preOpenRef : Option Rat := none
  gapChecked : Bool := false
  gapFired : Bool := false
deriving DecidableEq

/-- What `_fire_gap_reset` is called with. -/
structure Gap where
  reference : Rat
  opening : Rat
  drift : Rat
deriving DecidableEq

def timeOfDay (tick : IndexTick) : Int := tick.timestamp % dayLength

/-- A tick of the call auction. -/
def preOpen (tick : IndexTick) : Bool :=
  decide (preOpenCapture ≤ timeOfDay tick) && decide (timeOfDay tick < marketOpenCheck)

def afterOpen (tick : IndexTick) : Bool := decide (marketOpenCheck ≤ timeOfDay tick)

/-- The opening check. A reference of zero raises, after the check is marked as done. -/
def gapBetween (reference opening : Rat) : Option Gap :=
  let drift := |opening - reference| / reference
  if reference ≠ 0 ∧ gapThreshold < drift then some ⟨reference, opening, drift⟩ else none

/-- `_on_tick` of the handler, for one index. -/
def GapState.onTick (state : GapState) (tick : IndexTick) : GapState × Option Gap :=
  match state.preOpenRef with
  | none => (if preOpen tick then { state with preOpenRef := some tick.ltp } else state, none)
  | some reference =>
      if state.gapChecked = false ∧ afterOpen tick = true then
        match gapBetween reference tick.ltp with
        | some gap => ({ state with gapChecked := true, gapFired := true }, some gap)
        | none => ({ state with gapChecked := true }, none)
      else (state, none)

end Gap

/-- What the two components are configured with, and how many callbacks are registered. -/
structure Config where
  timeframes : List Nat
  periods : Periods
  monitored : List String
  callbacks : Nat
  distinct : timeframes.Nodup

structure System where
  series : String × Nat → Series
  gap : String → Option GapState

inductive Event where
  | cache (tick : IndexTick)
  | gap (tick : IndexTick)
deriving DecidableEq

/-- What goes out on the bus, and the reset callbacks. -/
inductive Output where
  | candle (closed : CandleEvent)
  | snapshot (computed : TechSnapshot)
  | callback (number : Nat) (underlying : String) (openingSpot : Rat)
  | gapOpen (underlying : String) (gap : Gap)
deriving DecidableEq

section Steps

variable (cfg : Config)

def fresh : System where
  series := fun _ => {}
  gap := fun underlying => if underlying ∈ cfg.monitored then some {} else none

/-- `reset_symbol`. -/
def resetSymbol (series : String × Nat → Series) (symbol : String) : String × Nat → Series :=
  fun key => if key.1 = symbol then {} else series key

/-- The loop of `CandleCache.run` over the timeframes. -/
def cacheTick (series : String × Nat → Series) (tick : IndexTick) : String × Nat → Series :=
  cfg.timeframes.foldl (fun series timeframe =>
    Function.update series (tick.symbol, timeframe)
      ((series (tick.symbol, timeframe)).onTick timeframe tick).1) series

def step (system : System) : Event → System
  | .cache tick => { system with series := cacheTick cfg system.series tick }
  | .gap tick =>
      match system.gap tick.symbol with
      | none => system
      | some state =>
          let after := state.onTick tick
          { series := if after.2.isSome then resetSymbol system.series tick.symbol
              else system.series
            gap := Function.update system.gap tick.symbol (some after.1) }

/-- What a tick makes one series publish. -/
def emit (series : Series) (timeframe : Nat) (tick : IndexTick) : List Output :=
  let after := series.onTick timeframe tick
  match after.2 with
  | none => []
  | some closed =>
      .candle closed ::
        (computeSnapshot cfg.periods tick.symbol timeframe tick.ltp tick.timestamp
          after.1.candles).toList.map .snapshot

/-- What a turn of either component sends. The callbacks come before the event on the bus. -/
def send (system : System) : Event → List Output
  | .cache tick => cfg.timeframes.flatMap fun timeframe =>
      emit cfg (system.series (tick.symbol, timeframe)) timeframe tick
  | .gap tick =>
      match (system.gap tick.symbol).bind fun state => (state.onTick tick).2 with
      | none => []
      | some gap =>
          (List.range cfg.callbacks).map (fun number => .callback number tick.symbol gap.opening) ++
            [.gapOpen tick.symbol gap]

end Steps

/-! ## What the ticks make of it -/

section Meaning

/-- The ticks of an index that the cache has seen. -/
def cacheTicks (symbol : String) (events : List Event) : List IndexTick :=
  events.filterMap fun event =>
    match event with
    | .cache tick => if tick.symbol = symbol then some tick else none
    | .gap _ => none

/-- The ticks of an index that the handler has seen. -/
def gapTicks (symbol : String) (events : List Event) : List IndexTick :=
  events.filterMap fun event =>
    match event with
    | .cache _ => none
    | .gap tick => if tick.symbol = symbol then some tick else none

/-- The first tick of a call auction. -/
def reference (ticks : List IndexTick) : Option IndexTick := ticks.find? preOpen

/-- The first tick after an opening that comes after it. -/
def opening (ticks : List IndexTick) : Option IndexTick :=
  (ticks.dropWhile fun tick => !preOpen tick).find? afterOpen

/-- The gap that these two make. -/
def gapOf (ticks : List IndexTick) : Option Gap :=
  (reference ticks).bind fun first => (opening ticks).bind fun second =>
    gapBetween first.ltp second.ltp

end Meaning

/-! ## The handler over the ticks of an index -/

section Handler

variable {ticks : List IndexTick} {first : IndexTick}

theorem not_both {tick : IndexTick} (early : preOpen tick = true) : afterOpen tick = false := by
  simp only [preOpen, Bool.and_eq_true, decide_eq_true_eq] at early
  simp only [afterOpen, decide_eq_false_iff_not]
  omega

theorem reference_snoc (ticks : List IndexTick) (tick : IndexTick) :
    reference (ticks ++ [tick]) =
      (reference ticks).or (if preOpen tick then some tick else none) := by
  rw [reference, List.find?_append, List.find?_singleton]
  rfl

/-- Without a reference before, no tick is an opening. -/
theorem opening_first (missing : reference ticks = none) (tick : IndexTick) :
    opening ticks = none ∧ opening (ticks ++ [tick]) = none := by
  have all : ticks.dropWhile (fun tick => !preOpen tick) = [] := by
    rw [List.dropWhile_eq_nil_iff]
    intro tick member
    simpa using List.find?_eq_none.mp missing tick member
  constructor
  · simp only [opening, all, List.find?_nil]
  · simp only [opening, List.dropWhile_append, all, List.isEmpty_nil, if_true]
    cases early : preOpen tick with
    | true => simp [List.dropWhile, early, not_both early]
    | false => simp [List.dropWhile, early]

theorem opening_snoc (known : reference ticks = some first) (tick : IndexTick) :
    opening (ticks ++ [tick]) =
      (opening ticks).or (if afterOpen tick then some tick else none) := by
  have more : (ticks.dropWhile fun tick => !preOpen tick).isEmpty = false := by
    rw [List.isEmpty_eq_false_iff, Ne, List.dropWhile_eq_nil_iff]
    intro all
    have late := all first (List.mem_of_find?_eq_some known)
    have early : preOpen first = true := List.find?_some known
    simp [early] at late
  rw [opening, List.dropWhile_append, more, if_neg Bool.false_ne_true, List.find?_append,
    List.find?_singleton]
  rfl

/-- What the handler remembers of the ticks of an index. -/
def stateOf (ticks : List IndexTick) : GapState where
  preOpenRef := (reference ticks).map IndexTick.ltp
  gapChecked := (opening ticks).isSome
  gapFired := (gapOf ticks).isSome

/-- One more tick: the handler remembers it, and fires at the tick that completes a gap. A gap
is not taken back. -/
theorem stateOf_snoc (ticks : List IndexTick) (tick : IndexTick) :
    (stateOf ticks).onTick tick = (stateOf (ticks ++ [tick]),
      if gapOf ticks = none then gapOf (ticks ++ [tick]) else none) ∧
      (∀ gap, gapOf ticks = some gap → gapOf (ticks ++ [tick]) = some gap) := by
  cases known : reference ticks with
  | none =>
    obtain ⟨before, after⟩ := opening_first known tick
    have silent : gapOf ticks = none := by simp [gapOf, known]
    have still : gapOf (ticks ++ [tick]) = none := by simp [gapOf, after]
    refine ⟨?_, by simp [silent]⟩
    simp only [GapState.onTick, stateOf, known, before, after, silent, still, reference_snoc]
    cases preOpen tick <;> rfl
  | some first =>
    have same : reference (ticks ++ [tick]) = some first := by simp [reference_snoc, known]
    have after := opening_snoc known tick
    cases found : opening ticks with
    | some second =>
      have kept : opening (ticks ++ [tick]) = some second := by simp [after, found]
      have unchanged : gapOf (ticks ++ [tick]) = gapOf ticks := by
        simp [gapOf, known, found, same, kept]
      refine ⟨?_, by simp [unchanged]⟩
      simp only [GapState.onTick, stateOf, known, found, same, kept, unchanged]
      cases gapOf ticks <;> simp
    | none =>
      have silent : gapOf ticks = none := by simp [gapOf, known, found]
      refine ⟨?_, by simp [silent]⟩
      cases late : afterOpen tick with
      | false =>
        have still : opening (ticks ++ [tick]) = none := by simp [after, found, late]
        have quiet : gapOf (ticks ++ [tick]) = none := by simp [gapOf, same, still]
        simp [GapState.onTick, stateOf, known, found, same, still, late, silent, quiet]
      | true =>
        have opened : opening (ticks ++ [tick]) = some tick := by simp [after, found, late]
        have gap : gapOf (ticks ++ [tick]) = gapBetween first.ltp tick.ltp := by
          simp [gapOf, same, opened]
        cases measured : gapBetween first.ltp tick.ltp <;>
          simp [GapState.onTick, stateOf, known, found, same, opened, late, silent, gap, measured]

end Handler

/-! ## A series over a run -/

section Series

variable (cfg : Config) {symbol : String} {timeframe : Nat}

/-- The closed candles behind a tick, of which the series keeps the last ones. -/
theorem seriesOf_snoc (timeframe : Nat) (ticks : List IndexTick) (tick : IndexTick) :
    ((seriesOf timeframe ticks).onTick timeframe tick).1 =
      seriesOf timeframe (ticks ++ [tick]) := by
  have single : ∀ (items : List Bucket) (bucket : Option Bucket),
      (closes timeframe bucket tick).foldl (BoundedDeques.append maxCandles)
        (items.rtake maxCandles) = (items ++ closes timeframe bucket tick).rtake maxCandles := by
    intro items bucket
    rw [closes]
    split
    · cases bucket with
      | none => simp
      | some closed =>
        rw [Option.toList_some, List.foldl_cons, List.foldl_nil, BoundedDeques.append,
          Buckets.rtake_snoc]
    · simp
  have candles : ((seriesOf timeframe ticks).onTick timeframe tick).1.candles =
      (seriesOf timeframe (ticks ++ [tick])).candles := by
    have grown := single (sent (opens timeframe) (closes timeframe) none ticks)
      (run (opens timeframe) none ticks)
    have all : (seriesOf timeframe (ticks ++ [tick])).candles =
        (sent (opens timeframe) (closes timeframe) none (ticks ++ [tick])).rtake maxCandles := by
      simp only [seriesOf]
    rw [all, sent_append, sent, sent, List.append_nil, ← grown]
    simp only [seriesOf, Series.onTick]
  have bucket : ((seriesOf timeframe ticks).onTick timeframe tick).1.bucket =
      (seriesOf timeframe (ticks ++ [tick])).bucket := by
    rw [seriesOf, seriesOf, run_append]
    rfl
  exact Series.ext candles bucket

/-- The loop over the timeframes ticks each of its series once and no other. -/
theorem cacheTick_eq (series : String × Nat → Series) (tick : IndexTick) (key : String × Nat) :
    cacheTick cfg series tick key =
      if key.1 = tick.symbol ∧ key.2 ∈ cfg.timeframes then ((series key).onTick key.2 tick).1
      else series key := by
  have loop : ∀ (timeframes : List Nat) (series : String × Nat → Series), timeframes.Nodup →
      timeframes.foldl (fun series timeframe =>
        Function.update series (tick.symbol, timeframe)
          ((series (tick.symbol, timeframe)).onTick timeframe tick).1) series key =
        if key.1 = tick.symbol ∧ key.2 ∈ timeframes then ((series key).onTick key.2 tick).1
        else series key := by
    intro timeframes
    induction timeframes with
    | nil => simp
    | cons timeframe rest inductionHypothesis =>
      intro series distinct
      obtain ⟨fresh, others⟩ := List.nodup_cons.mp distinct
      rw [List.foldl_cons, inductionHypothesis _ others]
      by_cases here : key = (tick.symbol, timeframe)
      · subst here
        simp [fresh]
      · rw [Function.update_of_ne here]
        have other : key.1 = tick.symbol → key.2 ≠ timeframe := by
          intro mine same
          exact here (Prod.ext mine same)
        by_cases mine : key.1 = tick.symbol
        · simp [mine, other mine]
        · simp [mine]
  exact loop cfg.timeframes series cfg.distinct

theorem seriesOf_nil (timeframe : Nat) : seriesOf timeframe [] = {} := by
  simp only [seriesOf, sent, run_nil, List.rtake_nil]

/-- One series and the handler of its index. -/
def ownStep (symbol : String) (timeframe : Nat) (own : Series × Option GapState) :
    Event → Series × Option GapState
  | .cache tick =>
      if tick.symbol = symbol then ((own.1.onTick timeframe tick).1, own.2) else own
  | .gap tick =>
      if tick.symbol = symbol then
        match own.2 with
        | none => own
        | some state =>
            (if (state.onTick tick).2.isSome then {} else own.1, some (state.onTick tick).1)
      else own

/-- They step on their own. -/
theorem own_follows (known : timeframe ∈ cfg.timeframes) (system : System) (event : Event) :
    ((step cfg system event).series (symbol, timeframe), (step cfg system event).gap symbol) =
      ownStep symbol timeframe (system.series (symbol, timeframe), system.gap symbol) event := by
  cases event with
  | cache tick =>
    simp only [step, cacheTick_eq, ownStep, known, and_true]
    by_cases mine : tick.symbol = symbol
    · rw [if_pos mine.symm, if_pos mine]
    · rw [if_neg (Ne.symm mine), if_neg mine]
  | gap tick =>
    by_cases mine : tick.symbol = symbol
    · subst mine
      simp only [step, ownStep, if_true]
      cases held : system.gap tick.symbol with
      | none => simp [held]
      | some state =>
        cases fired : (state.onTick tick).2 <;> simp [resetSymbol, fired]
    · simp only [ownStep, if_neg mine, step]
      cases held : system.gap tick.symbol with
      | none => rfl
      | some state =>
        cases fired : (state.onTick tick).2 <;>
          simp [fired, resetSymbol, Ne.symm mine]

theorem cacheTicks_append (symbol : String) (first second : List Event) :
    cacheTicks symbol (first ++ second) = cacheTicks symbol first ++ cacheTicks symbol second :=
  List.filterMap_append

theorem gapTicks_append (symbol : String) (first second : List Event) :
    gapTicks symbol (first ++ second) = gapTicks symbol first ++ gapTicks symbol second :=
  List.filterMap_append

/-- The series of an index after some events: what the cache has seen of it since the tick at
which the handler has found the gap, or from the start if it has found none. -/
def Since (symbol : String) (timeframe : Nat) (events : List Event) (series : Series) : Prop :=
  (gapOf (gapTicks symbol events) = none ∧
      series = seriesOf timeframe (cacheTicks symbol events)) ∨
    ∃ before tick after, events = before ++ .gap tick :: after ∧ tick.symbol = symbol ∧
      gapOf (gapTicks symbol before) = none ∧
      gapOf (gapTicks symbol (before ++ [.gap tick])) ≠ none ∧
      gapOf (gapTicks symbol events) ≠ none ∧
      series = seriesOf timeframe (cacheTicks symbol after)

/-- An event that neither ticks the series nor resets it. -/
theorem since_other {events : List Event} {series : Series}
    (since : Since symbol timeframe events series) {event : Event}
    (ticked : cacheTicks symbol [event] = [])
    (kept : gapOf (gapTicks symbol (events ++ [event])) = gapOf (gapTicks symbol events)) :
    Since symbol timeframe (events ++ [event]) series := by
  rcases since with ⟨quiet, same⟩ | ⟨before, tick, after, split, mine, quiet, found, gap, same⟩
  · refine Or.inl ⟨kept.trans quiet, ?_⟩
    rw [cacheTicks_append, ticked, List.append_nil]
    exact same
  · refine Or.inr ⟨before, tick, after ++ [event], ?_, mine, quiet, found, kept ▸ gap, ?_⟩
    · rw [split, List.append_assoc, List.cons_append]
    · rw [cacheTicks_append, ticked, List.append_nil]
      exact same

/-- The series and the handler over a run. -/
theorem own_run (symbol : String) (timeframe : Nat) (events : List Event) :
    (run (ownStep symbol timeframe) ({}, some {}) events).2 =
        some (stateOf (gapTicks symbol events)) ∧
      Since symbol timeframe events (run (ownStep symbol timeframe) ({}, some {}) events).1 := by
  induction events using List.reverseRecOn with
  | nil => exact ⟨rfl, Or.inl ⟨rfl, (seriesOf_nil timeframe).symm⟩⟩
  | append_singleton events event inductionHypothesis =>
    obtain ⟨state, since⟩ := inductionHypothesis
    rw [run_append, run_cons, run_nil]
    generalize run (ownStep symbol timeframe) ({}, some {}) events = own at state since
    by_cases mine : (match event with | .cache tick | .gap tick => tick.symbol) = symbol
    case neg =>
      have same : ownStep symbol timeframe own event = own := by
        cases event <;> exact if_neg mine
      have noTick : cacheTicks symbol [event] = [] := by
        cases event <;> simp_all [cacheTicks]
      have noGap : gapTicks symbol [event] = [] := by
        cases event <;> simp_all [gapTicks]
      rw [same, gapTicks_append, noGap, List.append_nil]
      refine ⟨state, since_other since noTick ?_⟩
      rw [gapTicks_append, noGap, List.append_nil]
    case pos =>
      cases event with
      | cache tick =>
        have noGap : gapTicks symbol [.cache tick] = [] := rfl
        have here : cacheTicks symbol [.cache tick] = [tick] := by simp [cacheTicks, mine]
        have stepped : ownStep symbol timeframe own (.cache tick) =
            ((own.1.onTick timeframe tick).1, own.2) := if_pos mine
        rw [stepped, gapTicks_append, noGap, List.append_nil]
        refine ⟨state, ?_⟩
        rcases since with ⟨quiet, same⟩ |
          ⟨before, opener, after, split, ours, quiet, found, gap, same⟩
        · refine Or.inl ⟨?_, ?_⟩
          · rw [gapTicks_append, noGap, List.append_nil]
            exact quiet
          · rw [cacheTicks_append, here, ← seriesOf_snoc, ← same]
        · refine Or.inr ⟨before, opener, after ++ [.cache tick], ?_, ours, quiet, found, ?_, ?_⟩
          · rw [split, List.append_assoc, List.cons_append]
          · rw [gapTicks_append, noGap, List.append_nil]
            exact gap
          · rw [cacheTicks_append, here, ← seriesOf_snoc, ← same]
      | gap tick =>
        have here : gapTicks symbol [.gap tick] = [tick] := by simp [gapTicks, mine]
        obtain ⟨stepped, stays⟩ := stateOf_snoc (gapTicks symbol events) tick
        have both : ownStep symbol timeframe own (.gap tick) =
            (if ((stateOf (gapTicks symbol events)).onTick tick).2.isSome then {} else own.1,
              some ((stateOf (gapTicks symbol events)).onTick tick).1) := by
          simp only [ownStep, if_pos (show tick.symbol = symbol from mine), state]
        rw [both, stepped, gapTicks_append, here]
        refine ⟨rfl, ?_⟩
        cases quiet : gapOf (gapTicks symbol events) with
        | some gap =>
          have kept := stays gap quiet
          simp only [reduceCtorEq, if_false, Option.isSome_none, Bool.false_eq_true]
          apply since_other since rfl
          rw [gapTicks_append, here, kept, quiet]
        | none =>
          simp only [if_true]
          cases after : gapOf (gapTicks symbol events ++ [tick]) with
          | none =>
            simp only [Option.isSome_none, Bool.false_eq_true, if_false]
            apply since_other since rfl
            rw [gapTicks_append, here, after, quiet]
          | some gap =>
            have found : gapOf (gapTicks symbol (events ++ [.gap tick])) ≠ none := by
              rw [gapTicks_append, here, after]
              exact Option.some_ne_none gap
            exact Or.inr ⟨events, tick, [], rfl, mine, quiet, found, found,
              (seriesOf_nil timeframe).symm⟩

theorem parts_run (known : timeframe ∈ cfg.timeframes) (listed : symbol ∈ cfg.monitored)
    (events : List Event) :
    ((run (step cfg) (fresh cfg) events).series (symbol, timeframe),
        (run (step cfg) (fresh cfg) events).gap symbol) =
      run (ownStep symbol timeframe) ({}, some {}) events := by
  have parts := run_part (step cfg)
    (fun system : System => (system.series (symbol, timeframe), system.gap symbol))
    (own_follows cfg known) (fresh cfg) events
  have begins : ((fresh cfg).series (symbol, timeframe), (fresh cfg).gap symbol) =
      (({}, some {}) : Series × Option GapState) := by
    simp [fresh, listed]
  rw [begins] at parts
  exact parts

/-- The series of an index after any interleaving of the two components. -/
theorem series_since_gap (known : timeframe ∈ cfg.timeframes) (listed : symbol ∈ cfg.monitored)
    (events : List Event) :
    Since symbol timeframe events
      ((run (step cfg) (fresh cfg) events).series (symbol, timeframe)) := by
  have own := (own_run symbol timeframe events).2
  rw [← parts_run cfg known listed] at own
  exact own

/-- The handler of an index over a run. -/
theorem handler_run (listed : symbol ∈ cfg.monitored) (events : List Event) :
    (run (step cfg) (fresh cfg) events).gap symbol = some (stateOf (gapTicks symbol events)) := by
  induction events using List.reverseRecOn with
  | nil => simp [fresh, listed, gapTicks, stateOf, reference, opening, gapOf]
  | append_singleton events event inductionHypothesis =>
    rw [run_append, run_cons, run_nil, gapTicks_append]
    cases event with
    | cache tick =>
      rw [show gapTicks symbol [.cache tick] = [] from rfl, List.append_nil]
      exact inductionHypothesis
    | gap tick =>
      by_cases mine : tick.symbol = symbol
      · subst mine
        have here : gapTicks tick.symbol [.gap tick] = [tick] := by simp [gapTicks]
        simp only [step, inductionHypothesis, here, Function.update_self, (stateOf_snoc _ tick).1]
      · have here : gapTicks symbol [.gap tick] = [] := by simp [gapTicks, mine]
        rw [here, List.append_nil, ← inductionHypothesis]
        simp only [step]
        split
        · rfl
        · exact Function.update_of_ne (Ne.symm mine) _ _

end Series

/-! ## What is published -/

section Published

variable (cfg : Config) {symbol : String}

/-- The gap that an output announces for an index. -/
def announced (symbol : String) : Output → Option Gap
  | .gapOpen underlying gap => if underlying = symbol then some gap else none
  | _ => none

theorem announced_cache (system : System) (tick : IndexTick) :
    (send cfg system (.cache tick)).filterMap (announced symbol) = [] := by
  rw [List.filterMap_eq_nil_iff]
  intro out member
  obtain ⟨timeframe, _, emitted⟩ := List.mem_flatMap.mp member
  rw [emit] at emitted
  cases closed : ((system.series (tick.symbol, timeframe)).onTick timeframe tick).2 with
  | none => simp [closed] at emitted
  | some event =>
    simp only [closed, List.mem_cons, List.mem_map] at emitted
    rcases emitted with rfl | ⟨_, _, rfl⟩
    · rfl
    · rfl

theorem announced_gap (system : System) (tick : IndexTick) :
    (send cfg system (.gap tick)).filterMap (announced symbol) =
      if tick.symbol = symbol then
        ((system.gap symbol).bind fun state => (state.onTick tick).2).toList
      else [] := by
  have callbacks : ∀ opening : Rat, (List.range cfg.callbacks).filterMap
      (announced symbol ∘ fun number => .callback number tick.symbol opening) = [] := by
    intro opening
    rw [List.filterMap_eq_nil_iff]
    intro _ _
    rfl
  rw [send]
  by_cases mine : tick.symbol = symbol
  · subst mine
    cases fired : (system.gap tick.symbol).bind fun state => (state.onTick tick).2 with
    | none => simp
    | some gap => simp [List.filterMap_map, callbacks, announced]
  · rw [if_neg mine]
    cases fired : (system.gap tick.symbol).bind fun state => (state.onTick tick).2 with
    | none => simp
    | some gap => simp [List.filterMap_map, callbacks, announced, mine]

/-- A gap is announced exactly once, if the first price after the opening differs enough from
the first price of the call auction before it, and whatever comes later. -/
theorem gap_opens_exact (listed : symbol ∈ cfg.monitored) (events : List Event) :
    (sent (step cfg) (send cfg) (fresh cfg) events).filterMap (announced symbol) =
      (gapOf (gapTicks symbol events)).toList := by
  induction events using List.reverseRecOn with
  | nil => rfl
  | append_singleton events event inductionHypothesis =>
    have state : (run (step cfg) (fresh cfg) events).gap symbol =
        some (stateOf (gapTicks symbol events)) := handler_run cfg listed events
    rw [sent_append, List.filterMap_append, inductionHypothesis, sent, sent, List.append_nil,
      gapTicks_append]
    cases event with
    | cache tick =>
      rw [announced_cache, List.append_nil, show gapTicks symbol [.cache tick] = [] from rfl,
        List.append_nil]
    | gap tick =>
      rw [announced_gap, state]
      by_cases mine : tick.symbol = symbol
      · have here : gapTicks symbol [.gap tick] = [tick] := by simp [gapTicks, mine]
        obtain ⟨stepped, stays⟩ := stateOf_snoc (gapTicks symbol events) tick
        rw [if_pos mine, here, Option.bind_some, stepped]
        cases quiet : gapOf (gapTicks symbol events) with
        | none => simp
        | some gap => simp [stays gap quiet]
      · have here : gapTicks symbol [.gap tick] = [] := by simp [gapTicks, mine]
        rw [if_neg mine, here, List.append_nil, List.append_nil]

/-- A tick within a price range, as an index feed gives it. -/
structure SoundTick (low high : Rat) (tick : IndexTick) : Prop where
  low_mem : low ≤ tick.low
  high_mem : tick.high ≤ high
  opening_mem : tick.opening ∈ Set.Icc tick.low tick.high
  ltp_mem : tick.ltp ∈ Set.Icc tick.low tick.high
  volume_nonneg : 0 ≤ tick.volume

/-- A series whose candles are sound, the open one among them. -/
def SoundSeries (low high : Rat) (series : Series) : Prop :=
  (∀ candle ∈ series.candles, SoundCandle low high candle) ∧
    ∀ candle ∈ series.bucket, SoundCandle low high candle

theorem sound_onTick {low high : Rat} {series : Series} (sound : SoundSeries low high series)
    (timeframe : Nat) {tick : IndexTick} (within : SoundTick low high tick) :
    SoundSeries low high (series.onTick timeframe tick).1 := by
  obtain ⟨candles, bucket⟩ := sound
  have fresh : SoundCandle low high (.ofTick timeframe tick) :=
    ⟨within.low_mem, within.high_mem, within.opening_mem, within.ltp_mem, within.volume_nonneg⟩
  have grown : ∀ current ∈ series.bucket, SoundCandle low high (current.absorb tick) := by
    intro current member
    obtain ⟨below, above, ⟨open₁, open₂⟩, _, volume⟩ := bucket current member
    obtain ⟨ltp₁, ltp₂⟩ := within.ltp_mem
    exact ⟨le_min below within.low_mem, max_le above within.high_mem,
      ⟨min_le_of_left_le open₁, le_max_of_le_left open₂⟩,
      ⟨min_le_of_right_le ltp₁, le_max_of_le_right ltp₂⟩, add_nonneg volume within.volume_nonneg⟩
  constructor
  · intro candle member
    simp only [Series.onTick, closes] at member
    split at member
    · cases held : series.bucket with
      | none =>
        rw [held] at member
        exact candles candle member
      | some closed =>
        rw [held, Option.toList_some, List.foldl_cons, List.foldl_nil] at member
        rcases List.mem_append.mp (mem_rtake member) with old | new
        · exact candles candle old
        · rw [List.mem_singleton] at new
          exact new ▸ bucket closed held
    · exact candles candle member
  · intro candle member
    simp only [Series.onTick, opens, onTick] at member
    cases held : series.bucket with
    | none =>
      simp only [held, Option.mem_def, Option.some.injEq] at member
      exact member ▸ fresh
    | some current =>
      simp only [held] at member
      split at member
      · simp only [Option.mem_def, Option.some.injEq] at member
        exact member ▸ grown current held
      · simp only [Option.mem_def, Option.some.injEq] at member
        exact member ▸ fresh

variable {low high : String → Rat}

/-- Every series of every index is sound. -/
def SoundSystem (low high : String → Rat) (system : System) : Prop :=
  ∀ key, SoundSeries (low key.1) (high key.1) (system.series key)

theorem sound_empty (bottom top : Rat) : SoundSeries bottom top {} :=
  ⟨fun _ member => absurd member List.not_mem_nil, fun _ member => nomatch member⟩

theorem sound_step {system : System} (sound : SoundSystem low high system) {event : Event}
    (within : ∀ tick, event = .cache tick → SoundTick (low tick.symbol) (high tick.symbol) tick) :
    SoundSystem low high (step cfg system event) := by
  intro key
  cases event with
  | cache tick =>
    simp only [step, cacheTick_eq]
    split
    case isTrue mine =>
      have here := within tick rfl
      rw [← mine.1] at here
      exact sound_onTick (sound key) key.2 here
    case isFalse => exact sound key
  | gap tick =>
    simp only [step]
    split
    · exact sound key
    · dsimp only
      split
      · rw [resetSymbol]
        split
        · exact sound_empty _ _
        · exact sound key
      · exact sound key

/-- A snapshot that one step publishes. -/
theorem sound_send {system : System} (sound : SoundSystem low high system) {event : Event}
    (within : ∀ tick, event = .cache tick → SoundTick (low tick.symbol) (high tick.symbol) tick)
    {snapshot : TechSnapshot} (published : .snapshot snapshot ∈ send cfg system event) :
    SoundSnapshot (low snapshot.symbol) (high snapshot.symbol) snapshot := by
  cases event with
  | gap tick =>
    simp only [send] at published
    split at published
    · simp at published
    · simp at published
  | cache tick =>
    obtain ⟨timeframe, _, emitted⟩ := List.mem_flatMap.mp published
    have after := sound_onTick (sound (tick.symbol, timeframe)) timeframe (within tick rfl)
    simp only [emit] at emitted
    split at emitted
    · simp at emitted
    · simp only [List.mem_cons, reduceCtorEq, List.mem_map, Output.snapshot.injEq,
        exists_eq_right, Option.mem_toList, false_or] at emitted
      have named : snapshot.symbol = tick.symbol := by
        simp only [computeSnapshot] at emitted
        split at emitted
        · cases emitted
        · obtain ⟨last, _, rfl⟩ := Option.map_eq_some_iff.mp emitted
          rfl
      rw [named]
      exact snapshot_sound cfg.periods after.1 emitted

theorem sound_sent {system : System} (sound : SoundSystem low high system) {events : List Event}
    (within : ∀ tick, .cache tick ∈ events → SoundTick (low tick.symbol) (high tick.symbol) tick)
    {snapshot : TechSnapshot}
    (published : .snapshot snapshot ∈ sent (step cfg) (send cfg) system events) :
    SoundSnapshot (low snapshot.symbol) (high snapshot.symbol) snapshot := by
  induction events generalizing system with
  | nil => simp [sent] at published
  | cons event rest inductionHypothesis =>
    have here : ∀ tick, event = .cache tick →
        SoundTick (low tick.symbol) (high tick.symbol) tick := by
      rintro tick rfl
      exact within tick List.mem_cons_self
    rcases List.mem_append.mp published with now | later
    · exact sound_send cfg sound here now
    · exact inductionHypothesis (sound_step cfg sound here)
        (fun tick member => within tick (List.mem_cons_of_mem _ member)) later

/-- Every snapshot that is ever published stays within the range of its index, whatever the
order in which the two components come to their ticks. -/
theorem snapshots_sound {events : List Event}
    (within : ∀ tick, .cache tick ∈ events → SoundTick (low tick.symbol) (high tick.symbol) tick)
    {snapshot : TechSnapshot}
    (published : .snapshot snapshot ∈ sent (step cfg) (send cfg) (fresh cfg) events) :
    SoundSnapshot (low snapshot.symbol) (high snapshot.symbol) snapshot :=
  sound_sent cfg (fun _ => sound_empty _ _) within published

/-- `IndicatorConfig`. -/
def standardPeriods : Periods :=
  ⟨9, 21, 14, 20, Nat.succ_pos _, Nat.succ_pos _, Nat.succ_pos _, Nat.succ_pos _⟩

theorem timeframes_distinct : [1, 5].Nodup := by decide

def standard : Config := ⟨[1, 5], standardPeriods, ["NIFTY"], 1, timeframes_distinct⟩

/-- A tick at some minutes and seconds after nine. -/
def tickAt (minute second : Int) (price : Rat) : IndexTick :=
  ⟨"NIFTY", price, price, price, price, price, 0, ((540 + minute) * 60 + second) * 10 ^ 6⟩

/-- The handler sees the opening before the cache does, and only then do five minutes close. -/
def gapMorning : List Event :=
  [.cache (tickAt 8 2 24000), .gap (tickAt 8 2 24000), .gap (tickAt 15 3 24300),
    .cache (tickAt 15 3 24300), .cache (tickAt 16 0 24310), .cache (tickAt 17 0 24320),
    .cache (tickAt 18 0 24330), .cache (tickAt 19 0 24340), .cache (tickAt 20 0 24350)]

theorem series_since_gap_morning : Since "NIFTY" 1 gapMorning
    ((run (step standard) (fresh standard) gapMorning).series ("NIFTY", 1)) :=
  series_since_gap standard List.mem_cons_self List.mem_cons_self gapMorning

theorem gap_opens_exact_morning :
    (sent (step standard) (send standard) (fresh standard) gapMorning).filterMap
        (announced "NIFTY") =
      (gapOf (gapTicks "NIFTY" gapMorning)).toList :=
  gap_opens_exact standard List.mem_cons_self gapMorning

example : gapOf (gapTicks "NIFTY" gapMorning) = some ⟨24000, 24300, 1 / 80⟩ := by
  decide +kernel

theorem morning_sound : ∀ event ∈ gapMorning, ∀ tick, event = .cache tick →
    24000 ≤ tick.low ∧ tick.high ≤ 24350 ∧ tick.low ≤ tick.opening ∧ tick.opening ≤ tick.high ∧
      tick.low ≤ tick.ltp ∧ tick.ltp ≤ tick.high ∧ 0 ≤ tick.volume := by
  intro event member
  simp only [gapMorning, List.mem_cons, List.not_mem_nil, or_false] at member
  rcases member with rfl | rfl | rfl | rfl | rfl | rfl | rfl | rfl | rfl <;>
    rintro tick ⟨⟩ <;> norm_num [tickAt]

/-- The fifth candle after the gap is published with a snapshot. -/
theorem snapshots_sound_morning : ∃ snapshot,
    .snapshot snapshot ∈ sent (step standard) (send standard) (fresh standard) gapMorning ∧
      SoundSnapshot 24000 24350 snapshot := by
  have published : (sent (step standard) (send standard) (fresh standard) gapMorning).any
      (fun out => match out with | .snapshot _ => true | _ => false) = true := by decide +kernel
  obtain ⟨out, member, kind⟩ := List.any_eq_true.mp published
  cases out with
  | snapshot computed =>
    refine ⟨computed, member, @snapshots_sound standard (fun _ => 24000) (fun _ => 24350)
      gapMorning ?_ computed member⟩
    intro tick fed
    obtain ⟨low, high, open₁, open₂, ltp₁, ltp₂, volume⟩ := morning_sound _ fed tick rfl
    exact ⟨low, high, ⟨open₁, open₂⟩, ⟨ltp₁, ltp₂⟩, volume⟩
  | candle => cases kind
  | callback => cases kind
  | gapOpen => cases kind

end Published

end OptionChain.GapResets
