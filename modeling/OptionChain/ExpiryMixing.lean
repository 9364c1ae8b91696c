import OptionChain.CivilDates
import OptionChain.OrderDesk
import OptionChain.PoolIndicators

/-!
# Ticks of other expiries

The bus carries option ticks of every subscribed expiry of an underlying, and everything that
`_option_loop` keeps of them is keyed by strike and side: the premium cache, the pool engine,
the premiums at the money and the prices of the legs. The expiry of a tick is not looked at,
so a contract that the book does not trade prices the one that it does.
-/

namespace OptionChain.ExpiryMixing

open Broker Rounding Runs CivilDates PoolIndicators StraddleEvents StraddleBook StraddleExits
  SessionRestart StraddleRuns OrderStream OrderDesk

/-! ## What a book keeps of the ticks -/

/-- What is kept beside the strategy object: the premium cache in the order of its first ticks,
the ATP of each key at the last candle, the pool engine and the time of the last ATP of each
key, the ATPs at the money and the series of the active premium. -/
structure Feeds where
  strikePrem : List (Key × Quote)
  prevAtpClosed : Key → Option Rat
  poolEngine : Engine
  lastAtp : Key → Option Rat
  ceAtp : Rat
  peAtp : Rat
  premCloses : List Rat

def Feeds.fresh : Feeds where
  strikePrem := []
  prevAtpClosed _ := none
  poolEngine := .fresh
  lastAtp _ := none
  ceAtp := 0
  peAtp := 0
  premCloses := []

structure PricedBook where
  strategy : Strategy
  feeds : Feeds

def PricedBook.fresh : PricedBook := ⟨.fresh, .fresh⟩

/-- `OptionTick`, as far as the strategy reads it, and its expiry. -/
structure OptionTick where
  underlying : String
  strike : Rat
  optionType : OptType
  expiry : Date
  ltp : Rat
  atp : Rat

/-- What a book meets. What a tick finds outside is read off the book and its feeds. -/
inductive Occurrence where
  | candle (minute : Int)
  | indexTick (look : PricedBook → Market) (ltp : Rat)
  | optionTick (tick : OptionTick)
  | fill (ev : StraddleFillEvent)
  | squareOff (reason : String)

structure PricedEvent where
  settings : ExitSettings
  clock : Clock
  occurrence : Occurrence

section Feeding

/-- The cache after a priced tick: a missing ATP keeps the last one. -/
def refresh (strikePrem : List (Key × Quote)) (key : Key) (ltp atp : Rat) : List (Key × Quote) :=
  if key ∈ strikePrem.map Prod.fst then
    strikePrem.map (fun entry =>
      if entry.1 = key then (key, ⟨ltp, if 0 < atp then atp else entry.2.atp⟩) else entry)
  else strikePrem ++ [(key, ⟨ltp, atp⟩)]

def quoted (strikePrem : List (Key × Quote)) (key : Key) : Quote :=
  (strikePrem.lookup key).getD ⟨0, 0⟩

/-- The part of `_option_loop` beside the position: cache and engine, and the ATP at the
money. -/
def Feeds.optionTick (settings : ExitSettings) (clock : Clock) (spot : Rat) (feeds : Feeds)
    (tick : OptionTick) : Feeds :=
  if 0 < tick.ltp then
    let key : Key := (truncate tick.strike, tick.optionType)
    let strikePrem := refresh feeds.strikePrem key tick.ltp tick.atp
    let engAtp := (quoted strikePrem key).atp
    let atm : Rat := if 0 < spot then roundHalfEven (spot / settings.step) * settings.step else 0
    let near := decide (0 < atm) && decide (|tick.strike - atm| < settings.step / 2) &&
      decide (0 < tick.atp)
    { feeds with
      strikePrem := strikePrem
      poolEngine := updateTick feeds.poolEngine key tick.ltp engAtp
      lastAtp := fun other =>
        if other = key ∧ 0 < engAtp then some clock.monotonic else feeds.lastAtp other
      ceAtp := if near ∧ tick.optionType = .ce then tick.atp else feeds.ceAtp
      peAtp := if near ∧ tick.optionType = .pe then tick.atp else feeds.peAtp }
  else feeds

/-- `_active_premium`: the legs of an open position, or the pair at the money. -/
def activePremium (book : PricedBook) : Quote × Quote :=
  match book.strategy.book.position.filter (fun pos => pos.status = .open) with
  | some pos =>
      (quoted book.feeds.strikePrem (truncate pos.ceLeg.strike, .ce),
        quoted book.feeds.strikePrem (truncate pos.peLeg.strike, .pe))
  | none => (⟨book.strategy.ceLtp, book.feeds.ceAtp⟩, ⟨book.strategy.peLtp, book.feeds.peAtp⟩)

/-- The part of `reset_session` beside the strategy object. -/
def Feeds.reset (feeds : Feeds) : Feeds :=
  { feeds with strikePrem := [], prevAtpClosed := fun _ => none, premCloses := [] }

/-- `_BUF`. -/
def buf : Nat := 600

/-- A candle closes a minute of every series. The ATPs are kept for the next candle unless the
day is over. -/
def Feeds.closeMinute (settings : ExitSettings) (clock : Clock) (minute : Int) (feeds : Feeds)
    (active : Quote × Quote) : Feeds :=
  let combined := active.1.ltp + active.2.ltp
  { feeds with
    premCloses :=
      if 0 < combined then (feeds.premCloses ++ [combined]).rtake buf else feeds.premCloses
    poolEngine := commitBar feeds.poolEngine (some minute)
    prevAtpClosed :=
      if pastSquareoff settings clock then feeds.prevAtpClosed
      else fun key =>
        let atp := (quoted feeds.strikePrem key).atp
        if 0 < atp then some atp else feeds.prevAtpClosed key }

variable (identity : Identity)

/-- The market of an index tick, with the series of the book. -/
def PricedBook.look (book : PricedBook) (look : PricedBook → Market) : Market :=
  { look book with premCloses := book.feeds.premCloses }

def pricedRespond (book : PricedBook) (event : PricedEvent) : PricedBook × List Effect :=
  let settings := event.settings
  let clock := event.clock
  match event.occurrence with
  | .candle minute =>
      let renewed : PricedBook :=
        if newSession settings clock book.strategy then
          ⟨resetStrategy book.strategy, book.feeds.reset⟩
        else book
      let done := onCandle identity settings clock book.strategy
      (⟨done.1, renewed.feeds.closeMinute settings clock minute (activePremium renewed)⟩, done.2)
  | .indexTick look ltp =>
      let done := indexTick identity settings clock (book.look look) book.strategy ltp
      (⟨done.1, book.feeds⟩, done.2)
  | .optionTick tick =>
      if tick.underlying = identity.underlying then
        (⟨onOptionTick settings book.strategy tick.optionType tick.strike tick.ltp,
          book.feeds.optionTick settings clock book.strategy.book.spot tick⟩, [])
      else (book, [])
  | .fill ev =>
      let done := respond identity book.strategy ⟨settings, clock, .fill ev⟩
      (⟨done.1, book.feeds⟩, done.2)
  | .squareOff reason =>
      let done := squareOff identity settings clock book.strategy reason
      (⟨done.1, book.feeds⟩, done.2)

def pricedStep (book : PricedBook) (event : PricedEvent) : PricedBook :=
  (pricedRespond identity book event).1

/-- The orders and snapshots of a run. -/
def emitted (book : PricedBook) (events : List PricedEvent) : List Effect :=
  sent (pricedStep identity) (fun book event => (pricedRespond identity book event).2) book events

variable (traded : Clock → Date)

/-- A tick of the underlying of another expiry than the one that orders are placed on. -/
def foreignTick (event : PricedEvent) : Option OptionTick :=
  match event.occurrence with
  | .optionTick tick =>
      if tick.underlying = identity.underlying ∧ tick.expiry ≠ traded event.clock then some tick
      else none
  | .candle _ | .indexTick _ _ | .fill _ | .squareOff _ => none

def own (event : PricedEvent) : Bool := (foreignTick identity traded event).isNone

/-- No price of a leg, and none that is kept: the tick has none, and no open leg has its strike
and side. -/
def Unpriced (book : PricedBook) (tick : OptionTick) : Prop :=
  tick.ltp ≤ 0 ∧ ∀ pos ∈ book.strategy.book.position, pos.status = .open →
    1 / 100 ≤ |tick.strike - (pos.leg tick.optionType).strike|

instance (book : PricedBook) (tick : OptionTick) : Decidable (Unpriced book tick) :=
  inferInstanceAs (Decidable (_ ∧ ∀ pos ∈ book.strategy.book.position, _ → _))

/-- A tick of another expiry prices nothing. -/
def ForeignUnpriced (book : PricedBook) (event : PricedEvent) : Prop :=
  ∀ tick ∈ foreignTick identity traded event, Unpriced book tick

instance (book : PricedBook) (event : PricedEvent) :
    Decidable (ForeignUnpriced identity traded book event) :=
  inferInstanceAs (Decidable (∀ tick ∈ foreignTick identity traded event, Unpriced book tick))

end Feeding

section Deleting

variable {identity : Identity} {book : PricedBook}

/-- A tick that prices nothing changes nothing. -/
theorem onOptionTick_unpriced (settings : ExitSettings) {tick : OptionTick}
    (unpriced : Unpriced book tick) :
    onOptionTick settings book.strategy tick.optionType tick.strike tick.ltp = book.strategy := by
  obtain ⟨worthless, apart⟩ := unpriced
  have unlit : ¬0 < tick.ltp := not_lt.mpr worthless
  have same : optionTick book.strategy.book tick.optionType tick.strike tick.ltp =
      book.strategy.book := by
    rw [optionTick]
    cases held : book.strategy.book.position with
    | none => rfl
    | some pos =>
      have away : ¬(pos.status = .open ∧
          |tick.strike - (pos.leg tick.optionType).strike| < 1 / 100) := by
        rintro ⟨live, close⟩
        exact absurd close (not_lt.mpr (apart pos held live))
      simp only [if_neg away]
  have unmatched : book.strategy.book.position.any (fun pos => decide (pos.status = .open) &&
      decide (|tick.strike - (pos.leg tick.optionType).strike| < 1 / 100)) = false := by
    cases held : book.strategy.book.position with
    | none => rfl
    | some pos =>
      rw [Option.any_some, Bool.and_eq_false_imp]
      intro live
      simpa using apart pos held (of_decide_eq_true live)
  simp only [onOptionTick, same, unmatched]
  simp [unlit]

theorem foreignTick_unpriced {traded : Clock → Date} {event : PricedEvent} {tick : OptionTick}
    (foreign : foreignTick identity traded event = some tick) (unpriced : Unpriced book tick) :
    pricedRespond identity book event = (book, []) := by
  obtain ⟨settings, clock, occurrence⟩ := event
  have ticks : occurrence = .optionTick tick := by
    cases occurrence with
    | optionTick other =>
      obtain ⟨_, same⟩ := Option.ite_none_right_eq_some.mp foreign
      rw [Option.some.inj same]
    | candle minute => cases foreign
    | indexTick look ltp => cases foreign
    | fill ev => cases foreign
    | squareOff reason => cases foreign
  have feeds : book.feeds.optionTick settings clock book.strategy.book.spot tick = book.feeds := by
    rw [Feeds.optionTick, if_neg (not_lt.mpr unpriced.1)]
  simp only [pricedRespond, ticks, onOptionTick_unpriced settings unpriced, feeds]
  split <;> rfl

/-- The cache holds what it was given last. -/
theorem quoted_refresh (strikePrem : List (Key × Quote)) (key : Key) (ltp atp : Rat) :
    (quoted (refresh strikePrem key ltp atp) key).ltp = ltp := by
  rw [refresh]
  split
  case isTrue known =>
    rw [quoted]
    induction strikePrem with
    | nil => simp at known
    | cons entry rest inductionHypothesis =>
      by_cases here : entry.1 = key
      · simp [here]
      · have later : key ∈ rest.map Prod.fst := by
          rw [List.map_cons, List.mem_cons] at known
          exact known.resolve_left (Ne.symm here)
        rw [List.map_cons, if_neg here, List.lookup_cons, beq_false_of_ne (Ne.symm here)]
        exact inductionHypothesis later
  case isFalse unknown =>
    have missing : strikePrem.lookup key = none := by
      rw [List.lookup_eq_none_iff]
      intro entry listed
      rw [bne_iff_ne]
      rintro rfl
      exact unknown (List.mem_map_of_mem listed)
    simp [quoted, List.lookup_append, missing]

/-- Any other tick of the underlying, of whatever expiry, is in the cache afterwards. -/
theorem priced_tick_cached (settings : ExitSettings) (clock : Clock) {tick : OptionTick}
    (same : tick.underlying = identity.underlying) (priced : 0 < tick.ltp) :
    (quoted (pricedStep identity book ⟨settings, clock, .optionTick tick⟩).feeds.strikePrem
      (truncate tick.strike, tick.optionType)).ltp = tick.ltp := by
  simp only [pricedStep, pricedRespond, if_pos same, Feeds.optionTick, if_pos priced]
  exact quoted_refresh _ _ _ _

/-- Ticks of other expiries that price nothing may be deleted from a stream: the same orders
are sent, and the book and all that it keeps of the ticks are the same in the end. -/
theorem foreign_ticks_deleted (identity : Identity) (traded : Clock → Date) (book : PricedBook)
    (events : List PricedEvent)
    (unpriced : Along (pricedStep identity) (ForeignUnpriced identity traded) book events) :
    emitted identity book events = emitted identity book (events.filter (own identity traded)) ∧
      run (pricedStep identity) book events =
        run (pricedStep identity) book (events.filter (own identity traded)) := by
  have inert : Along (pricedStep identity)
      (fun book event => own identity traded event = false →
        pricedStep identity book event = book ∧ (pricedRespond identity book event).2 = [])
      book events := by
    apply along_imp (pricedStep identity) _ book events unpriced
    intro book event prices foreign
    obtain ⟨tick, found⟩ := Option.isSome_iff_exists.mp (Option.isNone_eq_false_iff.mp foreign)
    have idle := foreignTick_unpriced found (prices tick found)
    rw [pricedStep, idle]
    exact ⟨rfl, rfl⟩
  constructor
  · exact sent_erase (pricedStep identity) _ (own identity traded) book events inert
  · apply run_erase (pricedStep identity) (own identity traded) book events
    exact along_imp (pricedStep identity) (fun _ _ idle foreign => (idle foreign).1) book events
      inert

end Deleting

/-! ## A tick of the next expiry -/

def nearExpiry : Date := ⟨2026, 7, 14, by decide, by decide⟩

def nextExpiry : Date := ⟨2026, 7, 21, by decide, by decide⟩

def meets (seconds : Int) (occurrence : Occurrence) : PricedEvent :=
  ⟨decaying, { day := 1, seconds := seconds, monotonic := seconds }, occurrence⟩

def ticks (expiry : Date) (strike : Rat) (optionType : OptType) (ltp : Rat) : Occurrence :=
  .optionTick
    { underlying := "NIFTY", strike := strike, optionType := optionType, expiry := expiry,
      ltp := ltp, atp := 0 }

/-- A pair is sold, and a put of the next expiry ticks before the index does. -/
def soldAndTicked (strike ltp : Rat) : List PricedEvent :=
  [meets 33660 (.candle 561),
    meets 33661 (.indexTick (fun _ => partnerOffered) 24000),
    meets 33662 (ticks nearExpiry 24000 .ce 100),
    meets 33662 (ticks nearExpiry 24000 .pe 90),
    meets 33663 (.indexTick (fun _ => partnerOffered) 24000),
    meets 33800 (ticks nextExpiry strike .pe ltp),
    meets 33801 (.indexTick (fun _ => partnerOffered) 24000)]

theorem worthless_ticks_deleted :
    emitted nifty .fresh (soldAndTicked 24500 0) =
        emitted nifty .fresh ((soldAndTicked 24500 0).filter (own nifty (fun _ => nearExpiry))) ∧
      run (pricedStep nifty) .fresh (soldAndTicked 24500 0) =
        run (pricedStep nifty) .fresh
          ((soldAndTicked 24500 0).filter (own nifty (fun _ => nearExpiry))) :=
  foreign_ticks_deleted nifty (fun _ => nearExpiry) .fresh (soldAndTicked 24500 0)
    (by decide +kernel)

/-- The put of the next expiry ticks at 15, and the put that was sold is rolled. -/
theorem next_expiry_rolls_the_put :
    ordersOf (emitted nifty .fresh (soldAndTicked 24000 15)) ≠
      ordersOf (emitted nifty .fresh
        ((soldAndTicked 24000 15).filter (own nifty (fun _ => nearExpiry)))) := by
  decide +kernel

end OptionChain.ExpiryMixing
