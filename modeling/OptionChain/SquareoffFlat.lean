import OptionChain.StraddleRuns

/-!
# Flat after square-off

The entry window and the square-off period are read from three configured times, and an
entry asks only for the first. Where they have a second in common, a flat book enters in
the period in which it has to be flat; where they have none, the first index tick of the
period leaves it flat and nothing opens it again.
-/

namespace OptionChain.SquareoffFlat

open Broker Rounding Runs StraddleEvents StraddleBook StraddleExits StraddleStore SessionRestart
  StraddleRuns

/-- A time as `_parse_time` returns it. -/
structure TimeOfDay where
  hour : Fin 24
  minute : Fin 60
deriving DecidableEq

def TimeOfDay.seconds (time : TimeOfDay) : Int := time.hour.val * 3600 + time.minute.val * 60

theorem TimeOfDay.seconds_bounds (time : TimeOfDay) : 0 ≤ time.seconds ∧ time.seconds < 86400 := by
  have hour := time.hour.isLt
  have minute := time.minute.isLt
  rw [TimeOfDay.seconds]
  omega

/-- What `_load_thresholds` reads of a section about the time of day. -/
structure Windows where
  isCrypto : Bool
  entryStart : TimeOfDay
  entryEnd : TimeOfDay
  squareoffTime : TimeOfDay
deriving DecidableEq

/-- The settings come from these times. -/
structure Windows.Reads (windows : Windows) (settings : ExitSettings) : Prop where
  crypto : settings.isCrypto = windows.isCrypto
  start : settings.entryStart = windows.entryStart.seconds
  cutoff : settings.entryCutoff = windows.entryEnd.seconds
  force : settings.forceExit = windows.squareoffTime.seconds

/-- No second of the day is in the entry window and in the square-off period. -/
def Windows.Separate (windows : Windows) : Prop :=
  if windows.isCrypto then
    min windows.entryStart.seconds windows.entryEnd.seconds ≤ windows.squareoffTime.seconds
  else windows.entryEnd.seconds ≤ max windows.entryStart.seconds windows.squareoffTime.seconds

instance (windows : Windows) : Decidable windows.Separate := by
  unfold Windows.Separate
  split <;> infer_instance

def Clock.OfDay (clock : Clock) : Prop := 0 ≤ clock.seconds ∧ clock.seconds < 86400

def isIndexTick : Stimulus → Bool
  | .indexTick _ _ => true
  | .candle | .optionTick _ _ _ | .fill _ | .squareOff _ => false

/-- The moment publishes no ENTRY order and leaves no open position. -/
def Flat (identity : Identity) (strategy : Strategy) (moment : Moment) : Prop :=
  NoEntry identity strategy moment ∧
    isPositionOpen (strategyStep identity strategy moment) = false

instance (identity : Identity) (strategy : Strategy) (moment : Moment) :
    Decidable (Flat identity strategy moment) :=
  inferInstanceAs (Decidable (_ ∧ _))

/-- The moments of a book with these times, as the clock moves on. -/
structure Timed (windows : Windows) (moments : List Moment) : Prop where
  configured : ∀ moment ∈ moments, windows.Reads moment.settings
  daily : ∀ moment ∈ moments, Clock.OfDay moment.clock
  ordered : moments.Pairwise (fun earlier later => earlier.clock.now ≤ later.clock.now)

/-- Whatever a fresh book has been through: from an index tick in the square-off period
on, it is flat for as long as it stays in the period and the session of that tick. -/
def FlatInPeriod (identity : Identity) (windows : Windows) : Prop :=
  ∀ (earlier later : List Moment) (tick : Moment),
    Timed windows (earlier ++ tick :: later) → isIndexTick tick.stimulus = true →
    (∀ moment ∈ tick :: later, pastSquareoff moment.settings moment.clock = true ∧
      sessionDay moment.settings moment.clock = sessionDay tick.settings tick.clock) →
    Along (strategyStep identity) (Flat identity) (run (strategyStep identity) .fresh earlier)
      (tick :: later)

/-! ## Windows -/

section Times

variable {windows : Windows} {settings : ExitSettings} {clock : Clock}

/-- Separate times allow no entry in the square-off period. -/
theorem separate_closed (separate : windows.Separate) (reads : windows.Reads settings)
    (past : pastSquareoff settings clock = true) : isInEntryWindow settings clock = false := by
  obtain ⟨crypto, start, cutoff, force⟩ := reads
  simp only [Windows.Separate, ← crypto, ← start, ← cutoff, ← force] at separate
  cases kind : settings.isCrypto with
  | true =>
    simp only [kind, if_true, pastSquareoff, isInEntryWindow, Bool.and_eq_true, decide_eq_true_eq,
      Bool.not_eq_false'] at separate past ⊢
    omega
  | false =>
    simp only [kind, Bool.false_eq_true, if_false, pastSquareoff, isInEntryWindow,
      decide_eq_true_eq, Bool.and_eq_false_iff, decide_eq_false_iff_not] at separate past ⊢
    omega

/-- The first second of the square-off period that may be in the entry window. -/
def Windows.shared (windows : Windows) : Int :=
  if windows.isCrypto then windows.squareoffTime.seconds
  else max windows.entryStart.seconds windows.squareoffTime.seconds

theorem shared_ofDay (windows : Windows) : 0 ≤ windows.shared ∧ windows.shared < 86400 := by
  have start := windows.entryStart.seconds_bounds
  have force := windows.squareoffTime.seconds_bounds
  rw [Windows.shared]
  split
  · exact force
  · omega

/-- Where the times are not separate, that second is in both. -/
theorem shared_open (together : ¬windows.Separate) (reads : windows.Reads settings)
    (now : clock.seconds = windows.shared) :
    isInEntryWindow settings clock = true ∧ pastSquareoff settings clock = true := by
  obtain ⟨crypto, start, cutoff, force⟩ := reads
  simp only [Windows.Separate, Windows.shared, ← crypto, ← start, ← cutoff, ← force]
    at together now
  cases kind : settings.isCrypto with
  | true =>
    simp only [kind, if_true, pastSquareoff, isInEntryWindow, Bool.and_eq_true, decide_eq_true_eq,
      Bool.not_eq_true', Bool.and_eq_false_iff, decide_eq_false_iff_not] at together now ⊢
    omega
  | false =>
    simp only [kind, Bool.false_eq_true, if_false, pastSquareoff, isInEntryWindow,
      decide_eq_true_eq, Bool.and_eq_true] at together now ⊢
    omega

end Times

/-! ## Separate times keep the book flat -/

section Separated

variable (identity : Identity) {strategy : Strategy} {moment : Moment}

/-- Only a book that holds a position of another status goes on holding it. -/
theorem fill_unopened (settings : ExitSettings) (now : Int) (fill : StraddleFillEvent)
    (unopened : isPositionOpen strategy = false) :
    isPositionOpen (strategy.withBook
      (fillLoop identity settings.toSettings now strategy.book fill)).1 = false ∧
      ∀ effect ∈ (fillLoop identity settings.toSettings now strategy.book fill).2,
        isEntry effect = false := by
  rw [fillLoop]
  split
  · exact ⟨unopened, by simp⟩
  · rw [onFill]
    cases fill.action with
    | exit => exact ⟨unopened, by simp⟩
    | entry =>
      by_cases aborted : fill.entryAborted = true
      · simp only [aborted, if_true]
        exact ⟨by simp [Strategy.withBook, isPositionOpen], by simp [isEntry, persist]⟩
      · simp only [aborted, Bool.false_eq_true, if_false]
        cases held : strategy.book.position with
        | none => exact ⟨by simp [Strategy.withBook, isPositionOpen], by simp⟩
        | some pos =>
          have ended : pos.status ≠ .open := by simpa [isPositionOpen, held] using unopened
          simp only [ended, if_false]
          exact ⟨by simp [Strategy.withBook, isPositionOpen, ended], by simp⟩

/-- A moment past the square-off and outside the entry window leaves a book flat that is
flat already. -/
theorem unopened_flat (unopened : isPositionOpen strategy = false)
    (closed : isInEntryWindow moment.settings moment.clock = false) :
    Flat identity strategy moment := by
  obtain ⟨settings, clock, stimulus⟩ := moment
  cases stimulus with
  | candle =>
    have still : isPositionOpen (markOpen settings clock
        (if newSession settings clock strategy then resetStrategy strategy else strategy)) =
        false := by
      rw [isPositionOpen, markOpen_book]
      split
      · rfl
      · exact unopened
    simp [Flat, NoEntry, strategyStep, respond, Stimulus.handled, handle, onCandle, still]
  | indexTick market ltp =>
    have seen : isPositionOpen (strategy.see ltp) = false := unopened
    have barred : entryPick settings clock market (strategy.see ltp) = none := by
      simp [entryPick, mayEnter, closed]
    simp [Flat, NoEntry, strategyStep, respond, Stimulus.handled, handle, indexTick, seen,
      maybeTryEntry, barred]
  | optionTick optType strike ltp =>
    have still : isPositionOpen (onOptionTick settings strategy optType strike ltp) = false := by
      cases held : strategy.book.position with
      | none => simp [isPositionOpen, onOptionTick, optionTick, held]
      | some pos =>
        have ended : pos.status ≠ .open := by simpa [isPositionOpen, held] using unopened
        simp [isPositionOpen, onOptionTick, optionTick, held, ended]
    exact ⟨by simp [NoEntry, respond, Stimulus.handled, handle], still⟩
  | fill ev =>
    obtain ⟨still, silent⟩ := fill_unopened identity settings clock.now ev unopened
    exact ⟨silent, still⟩
  | squareOff reason =>
    simp [Flat, NoEntry, strategyStep, respond, Stimulus.handled, handle, squareOff, unopened]

/-- An index tick past the square-off closes an open position. -/
theorem tick_flat (ticks : isIndexTick moment.stimulus = true)
    (past : pastSquareoff moment.settings moment.clock = true)
    (closed : isInEntryWindow moment.settings moment.clock = false) :
    Flat identity strategy moment := by
  obtain ⟨settings, clock, stimulus⟩ := moment
  cases stimulus with
  | indexTick market ltp =>
    cases holding : isPositionOpen (strategy.see ltp) with
    | false =>
      have unopened : isPositionOpen strategy = false := holding
      exact unopened_flat identity unopened closed
    | true =>
      obtain ⟨pos, held, _⟩ := (Option.any_eq_true _ _).mp holding
      have armed : (arm settings clock (strategy.see ltp)).book.position = some pos := by
        rw [arm_book, held]
      have checked : checkExits identity settings clock market (strategy.see ltp) =
          enact identity settings clock (arm settings clock (strategy.see ltp))
            .eodSquareoff := by
        have closes : verdict settings clock (strategy.see ltp) pos = some .eodSquareoff := by
          rw [verdict, if_pos past]
        rw [checkExits, held]
        simp only [closes]
      have handled : respond identity strategy ⟨settings, clock, .indexTick market ltp⟩ =
          enact identity settings clock (arm settings clock (strategy.see ltp))
            .eodSquareoff := by
        simp only [respond, Stimulus.handled, handle, indexTick, holding, if_true, checked]
      have halted := enact_halted identity settings clock armed .eodSquareoff (.inl rfl)
      rw [Flat, NoEntry, strategyStep, handled]
      exact ⟨enact_silent identity settings clock .eodSquareoff, isPositionOpen_flat halted.2⟩
  | candle => simp [isIndexTick] at ticks
  | optionTick optType strike ltp => simp [isIndexTick] at ticks
  | fill ev => simp [isIndexTick] at ticks
  | squareOff reason => simp [isIndexTick] at ticks

theorem run_flat (moments : List Moment) (unopened : isPositionOpen strategy = false)
    (closed : ∀ moment ∈ moments, isInEntryWindow moment.settings moment.clock = false) :
    Along (strategyStep identity) (Flat identity) strategy moments := by
  induction moments generalizing strategy with
  | nil => trivial
  | cons moment rest inductionHypothesis =>
    have flat := unopened_flat identity unopened (closed moment (by simp))
    refine ⟨flat, inductionHypothesis flat.2 ?_⟩
    intro other listed
    exact closed other (by simp [listed])

theorem separate_flat {windows : Windows} (separate : windows.Separate) :
    FlatInPeriod identity windows := by
  intro earlier later tick timed ticks within
  have closed (moment : Moment) (listed : moment ∈ tick :: later) :
      isInEntryWindow moment.settings moment.clock = false := by
    apply separate_closed separate _ (within moment listed).1
    exact timed.configured moment (by simp_all)
  have first : Flat identity (run (strategyStep identity) .fresh earlier) tick :=
    tick_flat identity ticks (within tick (by simp)).1 (closed tick (by simp))
  refine ⟨first, run_flat identity later first.2 ?_⟩
  intro moment listed
  exact closed moment (by simp [listed])

end Separated

/-! ## A second that is in both -/

section Together

variable (identity : Identity) (windows : Windows)

/-- A day with these times. -/
def together : ExitSettings :=
  { targeted with
    isCrypto := windows.isCrypto
    entryStart := windows.entryStart.seconds
    entryCutoff := windows.entryEnd.seconds
    forceExit := windows.squareoffTime.seconds }

def instant : Clock := { day := 1, seconds := windows.shared }

def shared (stimulus : Stimulus) : Moment := ⟨together windows, instant windows, stimulus⟩

def quietMarket : Market := { pairOffered with picked := none }

/-- What the first index tick of the period is followed by. -/
def offered : List Moment :=
  [shared windows (.optionTick .ce 24000 100),
    shared windows (.optionTick .pe 24000 90),
    shared windows (.indexTick pairOffered 24000)]

/-- The strategy before the pair is offered. -/
theorem run_offered :
    ∃ opened, run (strategyStep identity) .fresh
      ([shared windows .candle, shared windows (.indexTick quietMarket 24000)] ++
        (offered windows).dropLast) =
      { Strategy.fresh with
        book := { Book.fresh with spot := 24000 }
        ceLtp := 100
        peLtp := 90
        marketOpenDt := opened } := by
  have rounded : roundHalfEven (24000 / 50) = 480 := by decide +kernel
  refine ⟨(markOpen (together windows) (instant windows) .fresh).marketOpenDt, ?_⟩
  simp [offered, shared, strategyStep, respond, Stimulus.handled, handle, onCandle, newSession,
    Strategy.fresh, markOpen, isPositionOpen, Book.fresh, indexTick, Strategy.see, maybeTryEntry,
    entryPick, mayEnter, onOptionTick, together, targeted, rounded, optionTick]
  norm_num
  rfl

/-- The pair that is offered is entered. -/
theorem offered_entered {strategy : Strategy} {moment : Moment} {market : Market} {ltp : Rat}
    {pick : Pick} (ticks : moment.stimulus = .indexTick market ltp)
    (flat : strategy.book.position = none) (found : market.picked = some pick)
    (free : mayEnter moment.settings moment.clock market (strategy.see ltp) = true) :
    ¬NoEntry identity strategy moment := by
  have unopened : isPositionOpen (strategy.see ltp) = false := isPositionOpen_flat flat
  simp [NoEntry, respond, ticks, Stimulus.handled, handle, indexTick, unopened, maybeTryEntry,
    entryPick, free, found, Strategy.withBook, openPosition, isEntry, emitOrder, orderEvent]

theorem together_reads : windows.Reads (together windows) := ⟨rfl, rfl, rfl, rfl⟩

theorem together_entered (overlap : ¬windows.Separate) : ¬FlatInPeriod identity windows := by
  intro flat
  have both : isInEntryWindow (together windows) (instant windows) = true ∧
      pastSquareoff (together windows) (instant windows) = true :=
    shared_open overlap (together_reads windows) rfl
  have kept := flat [shared windows .candle] (offered windows)
    (shared windows (.indexTick quietMarket 24000)) ?_ rfl ?_
  case refine_1 =>
    refine ⟨?_, ?_, ?_⟩
    · simpa [offered, shared] using together_reads windows
    · simpa [offered, shared, Clock.OfDay, instant] using shared_ofDay windows
    · simp [offered, shared]
  case refine_2 =>
    simpa [offered, shared] using both.2
  · obtain ⟨opened, reached⟩ := run_offered identity windows
    have split : shared windows (.indexTick quietMarket 24000) :: offered windows =
        (shared windows (.indexTick quietMarket 24000) :: (offered windows).dropLast) ++
          [shared windows (.indexTick pairOffered 24000)] := rfl
    rw [split, along_append, ← run_append] at kept
    obtain ⟨_, last, _⟩ := kept
    have here : run (strategyStep identity) .fresh ([shared windows .candle] ++
        shared windows (.indexTick quietMarket 24000) :: (offered windows).dropLast) = _ := reached
    rw [here] at last
    refine offered_entered identity rfl rfl rfl ?_ last.1
    simpa [mayEnter, shared, together, Strategy.see, Book.fresh, Strategy.fresh, pairOffered,
      targeted] using both.1

end Together

/-- A book with these times is flat after its square-off exactly where no second is both in
the entry window and in the square-off period. -/
theorem flat_after_squareoff_iff (identity : Identity) (windows : Windows) :
    FlatInPeriod identity windows ↔ windows.Separate := by
  constructor
  · intro flat
    by_contra overlap
    exact together_entered identity windows overlap flat
  · exact separate_flat identity

/-! ## Two configurations -/

/-- Entries until a quarter of an hour after the square-off. -/
def lateEntries : Windows := ⟨false, ⟨9, 20⟩, ⟨15, 30⟩, ⟨15, 15⟩⟩

/-- The entry of a flat book at the square-off of a day that allows later entries. -/
theorem late_entry_in_period :
    ¬FlatInPeriod nifty lateEntries ∧
      (respond nifty
        (run (strategyStep nifty) .fresh ([shared lateEntries .candle,
          shared lateEntries (.indexTick quietMarket 24000)] ++ (offered lateEntries).dropLast))
        (shared lateEntries (.indexTick pairOffered 24000))).2.any isEntry = true :=
  ⟨together_entered nifty lateEntries (by decide +kernel), by decide +kernel⟩

end OptionChain.SquareoffFlat
