import OptionChain.TrapEntry
import OptionChain.TrapExit
import OptionChain.TrapSignals
import OptionChain.TrapGrowth
import Mathlib.Tactic.NormNum

/-!
# The stop of a futures position and the zone it is taken from

A futures position is stopped by ticks of the future. Its stop is an edge of the
zone that raised the signal, and the two scans find that zone in different bars: the
cascade in bars of the future, the normal scan in premiums of the near option. So
only the stop of a cascade signal lies in the prices it is compared with.

`Awaits` follows one entry from its signal through any answers, with any state of the
book at each of them: whatever other handlers do while it waits is covered.
-/

namespace OptionChain.FuturesStops

open Broker Rounding Timestamps TrapScanner TrapPosition TrapEntry TrapSignals
open TrapZones (zonesOf setups setupAt zoneFrom barAt)
open TrapTrail (StoredBar PyError barsOf)

section Entries

variable (setup : TrapEntry.Setup)

/-- The suspended forms of the entry of a signal. -/
inductive Awaits (signal : Signal) : Task → Prop where
  | started (engine : Engine) (task : Task)
      (starts : (onEntrySignal setup engine signal).2 = some task) : Awaits signal task
  | answered (engine : Engine) (task next : Task) (answer : Answer)
      (before : Awaits signal task)
      (goesOn : (resumeEntry setup engine task answer).2 = some next) : Awaits signal next

/-- The entry of a signal records a position, in a state of the book. -/
def Records (signal : Signal) (engine : Engine) (pos : Position) : Prop :=
  ∃ task answer, Awaits setup signal task ∧ engine.position ≠ some pos ∧
    (resumeEntry setup engine task answer).1.position = some pos

/-- The stop of an entry, by its side. -/
def stopPrice (optType : OptType) (entry : LtfEntry) : Rat :=
  match setup.htfSource, optType with
  | .futures, .pe => roundTo 2 (entry.zoneHigh + setup.slBuf)
  | _, _ => roundTo 2 (entry.zoneLow - setup.slBuf)

@[simp] theorem makePlan_slPrice (market : Market) (locals : Locals) (strike : Int) :
    (makePlan setup market locals strike).slPrice =
      stopPrice setup locals.optType locals.entry := rfl

/-- A plan of a signal: its side and the stop of its zone. -/
structure PlanOf (signal : Signal) (plan : Plan) : Prop where
  side : plan.optType = signal.optType
  stop : plan.slPrice = stopPrice setup signal.optType signal.entry

/-- What a suspended entry knows of its signal. -/
def Knows (signal : Signal) : Task → Prop
  | .primarySpread locals | .atmSpread locals =>
      locals.optType = signal.optType ∧ locals.entry = signal.entry
  | .login plan => PlanOf setup signal plan
  | .placing attempt | .status attempt _ _ | .sleeping attempt _ _ _ =>
      PlanOf setup signal attempt.plan

/-- A position recorded for a signal, as far as its exits compare prices. -/
structure EnteredAs (signal : Signal) (pos : Position) : Prop where
  side : pos.optType = signal.optType
  stop : pos.slPrice = stopPrice setup signal.optType signal.entry
  whole : pos.t1Hit = false
  unlocked : pos.floorLocked = false
  leg : setup.htfSource = .futures → pos.leg = .fut

variable {setup} {signal : Signal}

theorem planOf_makePlan (market : Market) {locals : Locals} (strike : Int)
    (side : locals.optType = signal.optType) (zone : locals.entry = signal.entry) :
    PlanOf setup signal (makePlan setup market locals strike) := by
  constructor
  case side => exact side
  case stop => rw [makePlan_slPrice, side, zone]

/-- The end of a candidate: the next one has the same plan, and a position is recorded
from it. -/
theorem settle_knows (engine : Engine) {attempt : Attempt} (orderId : String)
    (fill : OrderFill) (planned : PlanOf setup signal attempt.plan) :
    (∀ next ∈ (settle setup engine attempt orderId fill).2, Knows setup signal next) ∧
      ∀ pos, (settle setup engine attempt orderId fill).1.position = some pos →
        engine.position = some pos ∨ pos = makePosition setup attempt orderId fill := by
  unfold settle
  split
  · refine ⟨by simp, ?_⟩
    intro pos recorded
    exact Or.inr (Option.some.inj recorded).symm
  · split
    · refine ⟨?_, fun pos kept => Or.inl kept⟩
      intro next placed
      have same : next = .placing _ := (Option.some.inj placed).symm
      subst same
      exact planned
    · exact ⟨by simp, fun pos kept => Or.inl kept⟩

theorem makePosition_entered {attempt : Attempt} (orderId : String) (fill : OrderFill)
    (planned : PlanOf setup signal attempt.plan) :
    EnteredAs setup signal (makePosition setup attempt orderId fill) where
  side := planned.side
  stop := planned.stop
  whole := rfl
  unlocked := rfl
  leg := by
    intro futures
    simp [makePosition, futures]

/-- One answer: the entry still knows its signal, and what it records is entered from
it. The cases follow `resumeEntry`. -/
theorem resume_knows {engine : Engine} {task : Task} (answer : Answer)
    (knows : Knows setup signal task) :
    (∀ next ∈ (resumeEntry setup engine task answer).2, Knows setup signal next) ∧
      ∀ pos, (resumeEntry setup engine task answer).1.position = some pos →
        engine.position = some pos ∨ EnteredAs setup signal pos := by
  -- an entry that waits on, with the book as it was
  have waits (next : Task) (knowsNext : Knows setup signal next) :
      (∀ other ∈ (some next : Option Task), Knows setup signal other) ∧
        ∀ pos, engine.position = some pos →
          engine.position = some pos ∨ EnteredAs setup signal pos := by
    refine ⟨?_, fun pos kept => Or.inl kept⟩
    intro other same
    rwa [← Option.some.inj same]
  have ends (attempt : Attempt) (orderId : String) (fill : OrderFill)
      (planned : PlanOf setup signal attempt.plan) :
      (∀ next ∈ (settle setup engine attempt orderId fill).2, Knows setup signal next) ∧
        ∀ pos, (settle setup engine attempt orderId fill).1.position = some pos →
          engine.position = some pos ∨ EnteredAs setup signal pos := by
    obtain ⟨next, recorded⟩ := settle_knows engine orderId fill planned
    refine ⟨next, ?_⟩
    intro pos found
    obtain kept | same := recorded pos found
    · exact Or.inl kept
    · subst same
      exact Or.inr (makePosition_entered orderId fill planned)
  unfold resumeEntry
  split
  case h_1 locals percent =>
    split
    · exact waits _ (planOf_makePlan engine.market _ knows.1 knows.2)
    · exact waits _ knows
  case h_2 locals percent => exact waits _ (planOf_makePlan engine.market _ knows.1 knows.2)
  case h_3 plan ready =>
    cases ready with
    | true => exact waits (.placing ⟨plan, plan.strike, _, _⟩) knows
    | false => exact ⟨by simp, fun pos kept => Or.inl kept⟩
  case h_4 attempt orderId => exact waits _ knows
  case h_5 attempt => exact ⟨by simp, fun pos kept => Or.inl kept⟩
  case h_6 attempt orderId poll fill =>
    split
    · exact ends attempt orderId fill knows
    · exact waits _ knows
  case h_7 attempt orderId poll => exact ⟨by simp, fun pos kept => Or.inl kept⟩
  case h_8 attempt orderId poll fill =>
    split
    · exact waits _ knows
    · exact ends attempt orderId fill knows
  case h_9 => exact waits _ knows

/-- Every suspended form of an entry knows its signal, by induction on its answers. -/
theorem awaits_knows {task : Task} (awaits : Awaits setup signal task) :
    Knows setup signal task := by
  induction awaits with
  | started engine task starts =>
    unfold onEntrySignal at starts
    split at starts
    · have same : task = .primarySpread _ := (Option.some.inj starts).symm
      subst same
      exact ⟨rfl, rfl⟩
    · cases starts
  | answered engine task next answer before goesOn inductionHypothesis =>
    exact (resume_knows answer inductionHypothesis).1 next goesOn

/-- A recorded position has the side and the stop of its signal. -/
theorem records_entered {engine : Engine} {pos : Position}
    (records : Records setup signal engine pos) : EnteredAs setup signal pos := by
  obtain ⟨task, answer, awaits, fresh, recorded⟩ := records
  obtain kept | entered := (resume_knows answer (awaits_knows awaits)).2 pos recorded
  · exact absurd kept fresh
  · exact entered

/-- What a start of a handler may be in a run. -/
def SignalIn (events : List (Tasks.Event Handler Answer)) : Handler → Prop
  | .signal signal => Tasks.Event.start (.signal signal) ∈ events
  | .refresh _ | .trade _ _ => True

/-- Every suspended entry awaits a signal of the run. -/
def AllAwait (setup : TrapEntry.Setup) (events : List (Tasks.Event Handler Answer))
    (tasks : List Task) : Prop :=
  ∀ task ∈ tasks, ∃ signal, Tasks.Event.start (.signal signal) ∈ events ∧
    Awaits setup signal task

theorem awaits_pool (setup : TrapEntry.Setup) (events : List (Tasks.Event Handler Answer)) :
    Tasks.PoolInvariant (entries setup) (fun _ _ handler => SignalIn events handler)
      (fun _ _ _ _ => True) (fun _ tasks => AllAwait setup events tasks) := by
  apply Tasks.each_pool (fun _ => True)
    (fun task => ∃ signal, Tasks.Event.start (.signal signal) ∈ events ∧
      Awaits setup signal task)
  case split =>
    intro _ tasks
    exact ⟨fun all => ⟨trivial, all⟩, fun both => both.2⟩
  case starts =>
    intro engine tasks handler _ known
    refine ⟨trivial, ?_⟩
    intro task began
    cases handler with
    | signal signal => exact ⟨signal, known, .started engine task began⟩
    | refresh market => simp [entries, startHandler] at began
    | trade order qty => simp [entries, startHandler] at began
  case resumes =>
    intro engine others task answer _ ⟨signal, known, awaits⟩ _
    refine ⟨trivial, ?_⟩
    intro next goesOn
    exact ⟨signal, known, .answered engine task next answer awaits goesOn⟩

/-- A run of entries suspends nothing but entries of its own signals, whatever the
answers and the other handlers in between. -/
theorem run_awaits (setup : TrapEntry.Setup) (start : Engine)
    (events : List (Tasks.Event Handler Answer)) :
    AllAwait setup events
      (Runs.run (Tasks.step (entries setup)) ⟨start, []⟩ events).tasks := by
  apply Tasks.pool_run (awaits_pool setup events)
  · intro task member
    cases member
  · apply Runs.along_always
    intro event member state
    cases event with
    | start handler =>
      cases handler with
      | signal signal => exact member
      | refresh market => trivial
      | trade order qty => trivial
    | resume index answer => exact fun _ _ => trivial

end Entries

section Exits

variable (exits : TrapExit.Setup)

/-- A book that holds a position. -/
def holding (pos : Position) : TrapExit.Engine where
  pos := pos
  isOpen := true
  sweepWatch := none
  trades := []
  accepted := []

/-- A tick of the future sells the position: a sale is under way or done. -/
def sells (pos : Position) (ltp : Rat) : Bool :=
  let ticked := TrapExit.idxTick exits (holding pos) ⟨ltp, .kept⟩
  ticked.2.isSome || !ticked.1.isOpen

/-- A full sale is under way or done as soon as it begins. -/
theorem beginClose_sells (engine : TrapExit.Engine) (exit : TrapExit.Exit) :
    ((TrapExit.beginClose engine exit).2.isSome || !(TrapExit.beginClose engine exit).1.isOpen) =
      true := by
  unfold TrapExit.beginClose
  split <;> simp [TrapExit.closeOut]

/-- A floor that was not locked before the tick is not broken by it. -/
theorem floor_unbroken {pos : Position} (unlocked : pos.floorLocked = false) (ltp : Rat) :
    TrapExit.floorBroken exits (TrapExit.lockFloor exits pos ltp) ltp = false := by
  by_cases locks : (TrapExit.floorWatched exits pos && !pos.floorLocked &&
      decide (exits.profitFloor ≤ TrapExit.floorPnl exits pos ltp)) = true
  · have reached : exits.profitFloor ≤ TrapExit.floorPnl exits pos ltp := by
      simp only [Bool.and_eq_true, decide_eq_true_eq] at locks
      exact locks.2
    have same : TrapExit.floorPnl exits (TrapExit.lockFloor exits pos ltp) ltp =
        TrapExit.floorPnl exits pos ltp := by
      rw [TrapExit.lockFloor, if_pos locks]
      rfl
    simp [TrapExit.floorBroken, same, reached]
  · rw [TrapExit.floorBroken, TrapExit.lockFloor, if_neg locks, unlocked]
    simp

theorem slHit_lockFloor (pos : Position) (ltp : Rat) :
    TrapExit.slHit exits (TrapExit.lockFloor exits pos ltp) ltp = TrapExit.slHit exits pos ltp := by
  unfold TrapExit.lockFloor
  split <;> rfl

/-- On a fresh position a tick of the future sells exactly where the stop is hit. -/
theorem sells_fresh {pos : Position} (futures : exits.htfSource = .futures)
    (leg : pos.leg = .fut) (whole : pos.t1Hit = false) (unlocked : pos.floorLocked = false)
    (ltp : Rat) : sells exits pos ltp = TrapExit.slHit exits pos ltp := by
  have ticked : TrapExit.idxTick exits (holding pos) ⟨ltp, .kept⟩ =
      TrapExit.checkStops exits (holding pos) ltp := by
    simp [TrapExit.idxTick, TrapExit.checkTickExit, TrapExit.settleTick, holding, futures, leg,
      whole]
  unfold sells
  rw [ticked]
  simp only [TrapExit.checkStops, holding, floor_unbroken exits unlocked, slHit_lockFloor,
    Bool.false_eq_true, if_false]
  split
  case isTrue hit => rw [beginClose_sells, hit]
  case isFalse clear => simpa using clear

/-- The stop keeps clear of a price on the side it does not sell. -/
def Clear (optType : OptType) (stop price : Rat) : Prop :=
  match optType with
  | .ce => stop < price
  | .pe => price < stop

/-- The stop test of a fresh futures position. -/
theorem sells_iff {pos : Position} (futures : exits.htfSource = .futures)
    (leg : pos.leg = .fut) (whole : pos.t1Hit = false) (unlocked : pos.floorLocked = false)
    (ltp : Rat) : sells exits pos ltp = true ↔ ¬ Clear pos.optType pos.slPrice ltp := by
  rw [sells_fresh exits futures leg whole unlocked]
  cases side : pos.optType with
  | ce => simp [TrapExit.slHit, TrapExit.activeSl, Clear, side, whole]
  | pe => simp [TrapExit.slHit, TrapExit.activeSl, Clear, side, whole, futures]

end Exits

section Signals

variable (frames : ScanFrames)

/-- A row of a table: the reading of its time and its prices. -/
def rowOf (bar : StoredBar) : Bar := ⟨bar.datetime.wall, bar.high, bar.low, bar.close⟩

/-- What pandas does with stored bars: a table has their rows in order, and times that
all come without a zone are always read. -/
structure Tabulates : Prop where
  rows : ∀ bars df, frames.table bars = .ok df → df = bars.map rowOf
  reads : ∀ bars : List StoredBar, (∀ bar ∈ bars, bar.datetime.offset = none) →
    ∃ df, frames.table bars = .ok df

/-- Option premiums far below the price of the future: at most half of what the future
has over the buffer, which is twenty or more. -/
structure FarBelow (slBuf futures : Rat) (bars : List StoredBar) : Prop where
  gap : 20 ≤ futures - slBuf
  premiums : ∀ bar ∈ bars, 0 < bar.low ∧ bar.low ≤ bar.high ∧ 2 * bar.high ≤ futures - slBuf

/-- The book with other option premiums. -/
def withOptions (book : Book) (barsCe1 barsPe1 : List StoredBar) : Book :=
  { book with barsCe1 := barsCe1, barsPe1 := barsPe1 }

/-- The zone that a low-timeframe entry hands over. -/
def ltfEntryOf (raised : Raised) : LtfEntry := ⟨raised.entry.zoneHigh, raised.entry.zoneLow⟩

/-- A raised signal when its entry begins. -/
def signalOf (raised : Raised) (now : Nat) (canTrade : Bool) : Signal where
  leg := raised.leg
  optType := raised.optType
  entry := ltfEntryOf raised
  htfZone := raised.htfZone
  now := now
  canTrade := canTrade

/-- Two signals on the same leg and side, under the same zone of the future. -/
def SameSignal (raised other : Raised) : Prop :=
  other.leg = raised.leg ∧ other.optType = raised.optType ∧ other.htfZone = raised.htfZone

/-- The price has left the zone of a signal by the buffer. -/
def LeftZone (slBuf : Rat) (raised : Raised) (ltp : Rat) : Prop :=
  match raised.optType with
  | .ce => ltp ≤ raised.entry.zoneLow - slBuf
  | .pe => raised.entry.zoneHigh + slBuf ≤ ltp

/-- The stop of a position works in the prices of the future: it is clear of the price
at the entry, other option premiums do not move it, the position survives the price it
was entered at, and it is sold at every price in paise that has left the zone. -/
structure StopInFutures (setup : TrapEntry.Setup) (exits : TrapExit.Setup) (book : Book)
    (scan : Scan) (raised : Raised) (pos : Position) (futures : Rat) : Prop where
  clear : Clear raised.optType pos.slPrice futures
  ownBars : ∀ barsCe1 barsPe1 other, FarBelow setup.slBuf futures (barsCe1 ++ barsPe1) →
    scan.raises frames (withOptions book barsCe1 barsPe1) = some other →
    SameSignal raised other → stopPrice setup other.optType (ltfEntryOf other) = pos.slPrice
  survives : sells exits pos futures = false
  stopped : ∀ ltp, roundTo 2 ltp = ltp → LeftZone setup.slBuf raised ltp →
    sells exits pos ltp = true

/-- The closed zones that a cascade finds in the bars of the future: those of the day
inside the 15-minute zone that closed last. -/
def closedFutures (book : Book) : List (Entry LtfTag) :=
  let todayBars := barsOf book.today book.barsFut
  match frames.table (todayBars.drop (todayBars.length - 200)),
      findClosed15mZone frames todayBars none with
  | .ok df, .ok (some mtf) =>
      (scanLtf { unbounded with htfZoneHigh := mtf.zoneHigh, htfZoneLow := mtf.zoneLow }
        df).2.filter isClosed
  | _, _ => []

end Signals
section Raised

variable {frames : ScanFrames} {book : Book}

theorem raised_iff {outcome : Except PyError (Option Raised)} {raised : Raised} :
    outcome.toOption.join = some raised ↔ outcome = .ok (some raised) := by
  cases outcome with
  | error error => simp [Except.toOption]
  | ok found => simp [Except.toOption]

/-- What a run over the zones hands to the entry: the best closed entry inside the
15-minute zone of some zone. -/
theorem scanZones_raised {notifiedUids : List ZoneUid} {legKey : Leg} {optType : OptType}
    {requireClosed : Bool} {todayBars : List StoredBar} {df : List Bar} {price : Rat}
    {zones : List (Entry SpotTag)} {raised : Raised}
    (found : scanZones frames notifiedUids legKey optType requireClosed todayBars df price zones =
      .ok (some raised)) :
    ∃ zone mtf best,
      findClosed15mZone frames todayBars (if requireClosed then some zone else none) =
        .ok (some mtf) ∧
      selectBestLtfEntry (scanLtf (bandOf frames zone mtf) df).2 = some best ∧
      raised = ⟨legKey, optType, best.toZone, htfZoneOf zone⟩ := by
  induction zones with
  | nil => simp [scanZones] at found
  | cons zone rest inductionHypothesis =>
    unfold scanZones at found
    split at found
    case isTrue passed => exact inductionHypothesis found
    case isFalse looked =>
      split at found
      case h_1 error raisedError => cases found
      case h_2 nothing => exact inductionHypothesis found
      case h_3 mtf closed =>
        split at found
        case h_1 noEntry => exact inductionHypothesis found
        case h_2 best selected =>
          split at found
          case isTrue waits => exact inductionHypothesis found
          case isFalse retested =>
            refine ⟨zone, mtf, best, closed, selected, ?_⟩
            exact (Option.some.inj (Except.ok.inj found)).symm

/-- What a pass of `_run_ltf_on` that raises a signal went through. -/
theorem runLtfOn_raised {legKey : Leg} {bars : List StoredBar} {htfZones : List (Entry SpotTag)}
    {optType : OptType} {requireClosed : Bool} {priceOverride : Rat} {allClearedEntry : Bool}
    {raised : Raised}
    (found : runLtfOn frames book legKey bars htfZones optType requireClosed priceOverride
      allClearedEntry = .ok (some raised)) :
    ∃ first rest df, htfZones = first :: rest ∧
      frames.table ((barsOf book.today bars).drop ((barsOf book.today bars).length - 200)) =
        .ok df ∧
      (if allClearedEntry then clearedSignal frames book legKey optType df first = some raised
      else scanZones frames book.notifiedUids legKey optType requireClosed
        (barsOf book.today bars) df (priceOf book legKey priceOverride) htfZones =
          .ok (some raised)) := by
  unfold runLtfOn at found
  cases htfZones with
  | nil => simp at found
  | cons first rest =>
    dsimp only at found
    split at found
    case isTrue short => simp at found
    case isFalse enough =>
      split at found
      case h_1 error unread => cases found
      case h_2 df read =>
        refine ⟨first, rest, df, rfl, read, ?_⟩
        cases allClearedEntry with
        | true => simpa using found
        | false => simpa using found

/-- The lows of the closed entries depend on the bounds of the band only. -/
theorem closed_lows (band other : TrapScanner.HtfZone) (df : List Bar)
    (high : other.htfZoneHigh = band.htfZoneHigh) (low : other.htfZoneLow = band.htfZoneLow) :
    ((scanLtf other df).2.filter isClosed).map (fun e => e.zoneLow) =
      ((scanLtf band df).2.filter isClosed).map (fun e => e.zoneLow) := by
  have same : ltfZoneBars other df = ltfZoneBars band df := by
    unfold ltfZoneBars
    rw [high, low]
  unfold scanLtf
  rw [same]
  dsimp only
  split
  · rfl
  · simp [List.filter_map, Function.comp_def, isClosed]

/-- The best entry closed, with the lowest of the closed lows. -/
theorem selectBest_low {entries : List (Entry LtfTag)} {best : Entry LtfTag}
    (selected : selectBestLtfEntry entries = some best) :
    best ∈ entries.filter isClosed ∧ ∀ e ∈ entries.filter isClosed, best.zoneLow ≤ e.zoneLow :=
  ⟨List.argmin_mem selected, fun _ member =>
    List.le_of_mem_argmin (f := fun e : Entry LtfTag => e.zoneLow) member selected⟩

/-- The signal of a cascade is a call, with the lowest of the closed lows. -/
theorem cascade_raised {ts : Stamp} {raised : Raised}
    (found : (Scan.cascade ts).raises frames book = some raised) :
    raised.optType = .ce ∧
      (∃ zone ∈ closedFutures frames book, zone.zoneLow = raised.entry.zoneLow) ∧
      ∀ zone ∈ closedFutures frames book, raised.entry.zoneLow ≤ zone.zoneLow := by
  have scanned : cascadeScan frames book ts = .ok (some raised) := raised_iff.mp found
  unfold cascadeScan at scanned
  split at scanned
  case h_1 error unread => cases scanned
  case h_2 todayBars complete =>
    split at scanned
    case isTrue short => simp at scanned
    case isFalse enough =>
      split at scanned
      case h_1 error unread => cases scanned
      case h_2 zones rescanned =>
        obtain ⟨first, rest, df, listed, read, later⟩ := runLtfOn_raised scanned
        obtain ⟨zone, mtf, best, closed, selected, same⟩ := scanZones_raised (by simpa using later)
        subst same
        obtain ⟨member, least⟩ := selectBest_low selected
        have lows : (closedFutures frames book).map (fun e => e.zoneLow) =
            ((scanLtf (bandOf frames zone mtf) df).2.filter isClosed).map (fun e => e.zoneLow) := by
          unfold closedFutures
          simp only [read, (by simpa using closed :
            findClosed15mZone frames (barsOf book.today book.barsFut) none = .ok (some mtf))]
          exact closed_lows (bandOf frames zone mtf) _ df rfl rfl
        refine ⟨rfl, ?_, ?_⟩
        · have low : best.zoneLow ∈ (closedFutures frames book).map (fun e => e.zoneLow) := by
            rw [lows]
            exact List.mem_map_of_mem member
          exact List.mem_map.mp low
        · intro other inside
          have low : other.zoneLow ∈
              ((scanLtf (bandOf frames zone mtf) df).2.filter isClosed).map
                (fun e => e.zoneLow) := by
            rw [← lows]
            exact List.mem_map_of_mem inside
          obtain ⟨e, closedToo, equal⟩ := List.mem_map.mp low
          rw [← equal]
          exact least e closedToo

end Raised
section Cleared

variable {frames : ScanFrames} {book : Book}

/-- Four bars of a day at a level of premiums: a lower low, its trap and the return. -/
def clearedBars (day : Int) (level : Rat) : List StoredBar :=
  [⟨⟨day * 86400000000, none⟩, 4 + level, 2 + level, 3 + level⟩,
    ⟨⟨day * 86400000000 + 1, none⟩, 3 + level, 1 + level, 2 + level⟩,
    ⟨⟨day * 86400000000 + 2, none⟩, 5 + level, 3 + level, 4 + level⟩,
    ⟨⟨day * 86400000000 + 3, none⟩, 4 + level, 2 + level, 3 + level⟩]

theorem clearedBars_today (day : Int) (level : Rat) :
    barsOf day (clearedBars day level) = clearedBars day level := by
  have here (offset : Int) (low : 0 ≤ offset) (high : offset < 4) :
      (day * 86400000000 + offset) / 86400000000 = day := by omega
  have first : day * 86400000000 / 86400000000 = day := by omega
  simp [barsOf, clearedBars, first, here]

theorem clearedBars_whole {level : Rat} (low : 0 ≤ level) (high : level ≤ 1) (day : Int) :
    ltfZoneBars unbounded ((clearedBars day level).map rowOf) =
      (clearedBars day level).map rowOf := by
  apply List.filter_eq_self.mpr
  intro bar member
  simp only [clearedBars, List.map_cons, List.map_nil, List.mem_cons, List.not_mem_nil,
    or_false, rowOf] at member
  obtain rfl | rfl | rfl | rfl := member <;>
    refine Bool.and_eq_true_iff.mpr ⟨decide_eq_true ?_, decide_eq_true ?_⟩ <;>
    simp only [unbounded] <;> linarith

/-- The scan of these bars: the first setup is closed, the second one still waits. -/
theorem clearedBars_zones (level : Rat) (day : Int) :
    (zonesOf htfRule ((clearedBars day level).map rowOf)).map
      (fun zone => (zone.status, zone.zoneLow)) = [(.closed, 1 + level), (.active, 2 + level)] := by
  norm_num [zonesOf, setups, List.range_succ, zoneFrom, TrapZones.follow, setupAt, barAt, advance,
    trap, finish, fires, ends, htfRule, clearedBars, rowOf, fresh]

/-- The status and the bounds of the entries of `scan_ltf` are those of its zones. -/
theorem scanLtf_zones (band : TrapScanner.HtfZone) (df : List Bar) :
    (scanLtf band df).2.map (fun e => (e.status, e.zoneHigh, e.zoneLow)) =
      (zonesOf htfRule (ltfZoneBars band df)).map
        (fun zone => (zone.status, zone.zoneHigh, zone.zoneLow)) := by
  have zones := TrapZones.scanBars_zones htfRule (ltfZoneBars band df)
  rw [← zones]
  unfold scanLtf
  dsimp only
  split
  case isTrue short =>
    rw [zones, TrapZones.zonesOf_short htfRule short]
    rfl
  case isFalse enough => simp [scanHtf]

/-- The upper bound of an entry is the low of a bar of its table. -/
theorem scanLtf_high {band : TrapScanner.HtfZone} {df : List Bar} {e : Entry LtfTag}
    (member : e ∈ (scanLtf band df).2) : ∃ bar ∈ df, e.zoneHigh = bar.low := by
  have shown : (e.status, e.zoneHigh, e.zoneLow) ∈ (scanLtf band df).2.map
      (fun e => (e.status, e.zoneHigh, e.zoneLow)) := List.mem_map_of_mem member
  rw [scanLtf_zones] at shown
  obtain ⟨zone, listed, same⟩ := List.mem_map.mp shown
  have high : e.zoneHigh = zone.zoneHigh := congrArg (fun shape => shape.2.1) same.symm
  obtain ⟨prev, inside, curr, -, made⟩ := TrapGrowth.setup_of_zonesOf htfRule listed
  refine ⟨prev, (List.mem_filter.mp inside).1, ?_⟩
  rw [high, made]
  rfl

/-- These bars clear the way for an entry, at a level of their own. -/
theorem clearedBars_zone (frames : ScanFrames) {level : Rat} (low : 0 ≤ level) (high : level ≤ 1)
    (day : Int) :
    ∃ best, clearedZone frames ((clearedBars day level).map rowOf) = some best ∧
      best.zoneLow = 1 + level := by
  have shapes := congrArg (List.map (fun shape => (shape.1, shape.2.2)))
    (scanLtf_zones unbounded ((clearedBars day level).map rowOf))
  rw [clearedBars_whole low high, List.map_map, List.map_map] at shapes
  have entries := shapes.trans (clearedBars_zones level day)
  obtain ⟨first, others, listed, closed, rest⟩ := List.map_eq_cons_iff.mp entries
  obtain ⟨second, later, more, waiting, empty⟩ := List.map_eq_cons_iff.mp rest
  have nothing : later = [] := List.map_eq_nil_iff.mp empty
  simp only [Function.comp_apply, Prod.mk.injEq] at closed waiting
  refine ⟨first, ?_, closed.2⟩
  unfold clearedZone
  rw [listed, more, nothing]
  simp [isTrapped, isClosed, latestClosed, closed.1, waiting.1]

/-- The premiums of the new bars are far below any price the others are far below of. -/
theorem clearedBars_far {slBuf futures level : Rat} (gap : 20 ≤ futures - slBuf)
    (low : 0 ≤ level) (high : level ≤ 1) (day : Int) :
    FarBelow slBuf futures (clearedBars day level) := by
  refine ⟨gap, ?_⟩
  intro bar member
  simp only [clearedBars, List.mem_cons, List.not_mem_nil, or_false] at member
  obtain rfl | rfl | rfl | rfl := member <;> refine ⟨?_, ?_, ?_⟩ <;> dsimp only <;> linarith

/-- What an all-cleared signal is made of. -/
theorem clearedSignal_iff {legKey : Leg} {optType : OptType} {df : List Bar}
    {zone : Entry SpotTag} {raised : Raised} :
    clearedSignal frames book legKey optType df zone = some raised ↔
      zoneUid (htfZoneOf zone) ∉ book.notifiedUids ∧ ∃ best, clearedZone frames df = some best ∧
        raised = ⟨legKey, optType, best.toZone, htfZoneOf zone⟩ := by
  unfold clearedSignal
  split
  case isTrue known => simp [known]
  case isFalse fresh => simp [fresh, eq_comm]

/-- The zone of an all-cleared signal has the low of a bar as its upper bound. -/
theorem clearedZone_high {df : List Bar} {best : Entry LtfTag}
    (cleared : clearedZone frames df = some best) : ∃ bar ∈ df, best.zoneHigh = bar.low := by
  unfold clearedZone at cleared
  dsimp only at cleared
  split at cleared
  case isTrue trapped => cases cleared
  case isFalse closed =>
    have member := List.argmax_mem cleared
    exact scanLtf_high (List.mem_filter.mp member).1

/-- A normal scan on the near call that raises a signal also raises it, under the same
zone of the future, from the new bars. -/
theorem normal_again (tabulates : Tabulates frames) {raised : Raised} {level : Rat}
    (low : 0 ≤ level) (high : level ≤ 1)
    (found : (Scan.normal .ce1).raises frames book = some raised) :
    ∃ other, (Scan.normal .ce1).raises frames
        (withOptions book (clearedBars book.today level) []) = some other ∧
      SameSignal raised other ∧ raised.optType = .ce ∧ other.entry.zoneLow = 1 + level := by
  obtain ⟨first, rest, df, listed, read, cleared⟩ := runLtfOn_raised (raised_iff.mp found)
  rw [if_pos rfl, clearedSignal_iff] at cleared
  obtain ⟨fresh, best, -, same⟩ := cleared
  subst same
  obtain ⟨table, tabled⟩ := tabulates.reads (clearedBars book.today level)
    (by simp [clearedBars])
  have rows := tabulates.rows _ _ tabled
  subst rows
  obtain ⟨other, clear, lowest⟩ := clearedBars_zone frames low high book.today
  refine ⟨⟨.ce1, .ce, other.toZone, htfZoneOf first⟩, ?_, ⟨rfl, rfl, rfl⟩, rfl, lowest⟩
  have zones : futBear (withOptions book (clearedBars book.today level) []) = first :: rest :=
    listed
  have long : (clearedBars book.today level).length = 4 := rfl
  apply raised_iff.mpr
  simp only [ltfScanNormal, runLtfOn, zones]
  simp only [withOptions, clearedBars_today, long, tabled, Nat.reduceSub, List.drop_zero,
    Nat.reduceLT, or_self, if_false, if_true]
  rw [Except.ok.injEq, clearedSignal_iff]
  exact ⟨fresh, other, clear, rfl⟩

end Cleared

section Stops

variable {frames : ScanFrames} {setup : TrapEntry.Setup} {exits : TrapExit.Setup} {book : Book}
  {raised : Raised} {pos : Position} {futures : Rat}

/-- The stop of a put from premiums far below the future lies below it too. -/
theorem put_stop_below (tabulates : Tabulates frames)
    (far : FarBelow setup.slBuf futures book.barsPe1)
    (found : (Scan.normal .pe1).raises frames book = some raised) :
    raised.optType = .pe ∧ roundTo 2 (raised.entry.zoneHigh + setup.slBuf) < futures := by
  obtain ⟨first, rest, df, listed, read, cleared⟩ := runLtfOn_raised (raised_iff.mp found)
  rw [if_pos rfl, clearedSignal_iff] at cleared
  obtain ⟨fresh, best, clear, same⟩ := cleared
  subst same
  refine ⟨rfl, ?_⟩
  obtain ⟨row, inTable, high⟩ := clearedZone_high clear
  rw [tabulates.rows _ _ read] at inTable
  obtain ⟨bar, stored, same⟩ := List.mem_map.mp inTable
  have kept : bar ∈ book.barsPe1 := (List.mem_filter.mp (List.mem_of_mem_drop stored)).1
  obtain ⟨-, ordered, half⟩ := far.premiums bar kept
  have bound : best.zoneHigh ≤ bar.high := by
    rw [high, ← same]
    exact ordered
  obtain ⟨-, near⟩ := roundTo_two_near (best.zoneHigh + setup.slBuf)
  have gap := far.gap
  show roundTo 2 (best.zoneHigh + setup.slBuf) < futures
  linarith

/-- No stop of a normal signal works in the prices of the future: that of a put is on
the wrong side of the price, and that of a call moves with the premiums. -/
theorem normal_stop_fails (tabulates : Tabulates frames) (mode : setup.htfSource = .futures)
    (leg : Leg) (far : FarBelow setup.slBuf futures (book.barsCe1 ++ book.barsPe1))
    (found : (Scan.normal leg).raises frames book = some raised)
    (stop : pos.slPrice = stopPrice setup raised.optType (ltfEntryOf raised)) :
    ¬ StopInFutures frames setup exits book (.normal leg) raised pos futures := by
  intro works
  cases leg with
  | ce1 =>
    have stopAt (level : Rat) (low : 0 ≤ level) (high : level ≤ 1) :
        roundTo 2 (1 + level - setup.slBuf) = pos.slPrice := by
      obtain ⟨other, again, same, side, lowest⟩ := normal_again tabulates low high found
      have premiums : FarBelow setup.slBuf futures (clearedBars book.today level ++ []) := by
        rw [List.append_nil]
        exact clearedBars_far far.gap low high book.today
      have equal := works.ownBars _ _ other premiums again same
      rw [same.2.1, side] at equal
      rw [← equal, ← lowest]
      simp [stopPrice, mode, ltfEntryOf]
    have first := stopAt 0 (by norm_num) (by norm_num)
    have second := stopAt 1 (by norm_num) (by norm_num)
    obtain ⟨-, low⟩ := roundTo_two_near (1 + 0 - setup.slBuf)
    obtain ⟨high, -⟩ := roundTo_two_near (1 + 1 - setup.slBuf)
    rw [first] at low
    rw [second] at high
    linarith
  | pe1 =>
    have premiums : FarBelow setup.slBuf futures book.barsPe1 :=
      ⟨far.gap, fun bar member => far.premiums bar (List.mem_append_right _ member)⟩
    obtain ⟨side, below⟩ := put_stop_below tabulates premiums found
    have clear : Clear raised.optType pos.slPrice futures := works.clear
    rw [stop, side] at clear
    have above : futures < roundTo 2 (raised.entry.zoneHigh + setup.slBuf) := by
      simpa [Clear, stopPrice, mode, ltfEntryOf] using clear
    exact absurd below (not_lt.mpr above.le)
  | ce2 => simp [Scan.raises, ltfScanNormal, Except.toOption] at found
  | pe2 => simp [Scan.raises, ltfScanNormal, Except.toOption] at found
  | fut => simp [Scan.raises, ltfScanNormal, Except.toOption] at found

/-- The cascade does not read the option premiums. -/
theorem cascade_ignores_options (ts : Stamp) (barsCe1 barsPe1 : List StoredBar) :
    (Scan.cascade ts).raises frames (withOptions book barsCe1 barsPe1) =
      (Scan.cascade ts).raises frames book := rfl

/-- The stop of a cascade signal works in the prices of the future exactly where the
price is above it. -/
theorem cascade_stop_iff (mode : setup.htfSource = .futures)
    (watches : exits.htfSource = .futures) (ts : Stamp)
    (found : (Scan.cascade ts).raises frames book = some raised)
    (side : pos.optType = raised.optType)
    (stop : pos.slPrice = stopPrice setup raised.optType (ltfEntryOf raised))
    (leg : pos.leg = .fut) (whole : pos.t1Hit = false) (unlocked : pos.floorLocked = false) :
    StopInFutures frames setup exits book (.cascade ts) raised pos futures ↔
      roundTo 2 (raised.entry.zoneLow - setup.slBuf) < futures := by
  have call : raised.optType = .ce := (cascade_raised found).1
  have level : pos.slPrice = roundTo 2 (raised.entry.zoneLow - setup.slBuf) := by
    rw [stop, call]
    simp [stopPrice, mode, ltfEntryOf]
  have sold (ltp : Rat) : sells exits pos ltp = true ↔ ltp ≤ pos.slPrice := by
    rw [sells_iff exits watches leg whole unlocked, side, call]
    exact not_lt
  constructor
  · intro works
    have clear := works.clear
    rwa [call, level] at clear
  · intro above
    constructor
    case clear =>
      rw [call, level]
      exact above
    case ownBars =>
      intro barsCe1 barsPe1 other _ again _
      rw [cascade_ignores_options, found] at again
      rw [← Option.some.inj again, stop]
    case survives =>
      rw [Bool.eq_false_iff, Ne, sold, level]
      exact not_le.mpr above
    case stopped =>
      intro ltp paise left
      rw [sold, level, ← paise]
      rw [LeftZone, call] at left
      exact roundTo_mono 2 left

/-- The lowest closed zone decides for all of them. -/
theorem lowest_decides {ts : Stamp} (found : (Scan.cascade ts).raises frames book = some raised) :
    roundTo 2 (raised.entry.zoneLow - setup.slBuf) < futures ↔
      ∃ zone ∈ closedFutures frames book,
        roundTo 2 (zone.zoneLow - setup.slBuf) < futures := by
  obtain ⟨-, ⟨zone, member, same⟩, least⟩ := cascade_raised found
  constructor
  · intro above
    exact ⟨zone, member, by rwa [same]⟩
  · rintro ⟨other, inside, above⟩
    have lower : raised.entry.zoneLow - setup.slBuf ≤ other.zoneLow - setup.slBuf := by
      have bound := least other inside
      linarith
    exact lt_of_le_of_lt (roundTo_mono 2 lower) above

/-- The stop of a futures position works in the prices of the future exactly where the
cascade raised its signal and the future, when the position is recorded, trades above
the stop that some closed zone of its own bars gives. -/
theorem stop_in_futures_iff (frames : ScanFrames) (tabulates : Tabulates frames)
    (setup : TrapEntry.Setup) (exits : TrapExit.Setup) (mode : setup.htfSource = .futures)
    (watches : exits.htfSource = .futures) (book : Book) (scan : Scan) (raised : Raised)
    (found : scan.raises frames book = some raised) (now : Nat) (canTrade : Bool)
    (engine : Engine) (pos : Position)
    (records : Records setup (signalOf raised now canTrade) engine pos)
    (far : FarBelow setup.slBuf engine.market.spotCache (book.barsCe1 ++ book.barsPe1)) :
    StopInFutures frames setup exits book scan raised pos engine.market.spotCache ↔
      (∃ ts, scan = .cascade ts) ∧ ∃ zone ∈ closedFutures frames book,
        roundTo 2 (zone.zoneLow - setup.slBuf) < engine.market.spotCache := by
  obtain ⟨side, stop, whole, unlocked, leg⟩ := records_entered records
  cases scan with
  | normal leg' =>
    constructor
    · intro works
      exact absurd works (normal_stop_fails tabulates mode leg' far found stop)
    · rintro ⟨⟨ts, impossible⟩, -⟩
      cases impossible
  | cascade ts =>
    rw [cascade_stop_iff mode watches ts found side stop (leg mode) whole unlocked,
      lowest_decides found]
    simp

end Stops

section Crude

/-- The candle of a bar, or of a bar and the candle of the later bars of its interval. -/
def resample (minutes : Nat) : List Bar → List Bar
  | [] => []
  | bar :: rest =>
      let start := bar.datetime - bar.datetime % (minutes * 60000000)
      match resample minutes rest with
      | [] => [{ bar with datetime := start }]
      | candle :: candles =>
          if start = candle.datetime then
            ⟨start, max bar.high candle.high, min bar.low candle.low, candle.close⟩ :: candles
          else { bar with datetime := start } :: candle :: candles

def plainFrames : ScanFrames where
  table bars := .ok (bars.map rowOf)
  candles := resample
  text := toString

theorem plainFrames_tabulates : Tabulates plainFrames where
  rows := by
    intro bars df read
    exact (Except.ok.inj read).symm
  reads := fun bars _ => ⟨bars.map rowOf, rfl⟩

/-- A bar of the future on the day of the examples. -/
def futureBar (minute : Int) (high low close : Rat) : StoredBar :=
  ⟨⟨20000 * 86400000000 + minute * 60000000, none⟩, high, low, close⟩

/-- A zone from 5995 to 6000 is trapped and closed, a later one is trapped. -/
def futureBars : List StoredBar :=
  [futureBar 540 6010 6000 6005, futureBar 555 6005 5995 6000, futureBar 570 6012 5998 6005,
    futureBar 585 6008 5999 6000, futureBar 600 6009 5997 6005, futureBar 615 6010 5998 6004]

/-- Premiums of the put around 100, and the future at a price. -/
def crudeBook (futures : Rat) : Book where
  barsFut := futureBars
  barsCe1 := []
  barsPe1 := clearedBars 20000 96
  futZones := (scanHtfSpot (futureBars.map rowOf)).2
  spotCache := futures
  ltpCache leg := if leg = .fut then futures else 100
  notifiedUids := []
  today := 20000
  cascadeMin := 15
  cascadePositive := by decide

theorem crudeStep_positive : 0 < 50 := by decide

def crudeSetup : TrapEntry.Setup where
  und := "CRUDEOIL"
  exchange := "MCX"
  clientId := "C1"
  htfSource := .futures
  lotSize := 100
  lotMul := 1
  step := 50
  slBuf := 2
  maxSpreadPct := 3
  cutoff := 1380
  entryWin := none
  stepPositive := crudeStep_positive

def crudeExits : TrapExit.Setup where
  und := "CRUDEOIL"
  expiry := "24OCT"
  exchange := "MCX"
  clientId := "C1"
  htfSource := .futures
  noTargetTsl := false
  profitFloor := 0

/-- A flat book with the future at a price. -/
def crudeEngine (futures : Rat) : Engine where
  noMarginToday := false
  position := none
  notifiedUids := []
  market :=
    ⟨futures, futures, "24OCT", some 6000, some 5950, some 6000, some 6050, 110, 100, 150, 150⟩
  orders := []

/-- An entry whose first order is placed. -/
def placedEntry (futures : Rat) (signal : Signal) : Tasks.System Engine Task :=
  Runs.run (Tasks.step (entries crudeSetup)) ⟨crudeEngine futures, []⟩
    [.start (.signal signal), .resume 0 (.spread 1), .resume 0 (.broker true),
      .resume 0 (.placed "A1")]

/-- The position after the fill of this order. -/
def filledPosition (futures : Rat) (signal : Signal) : Option Position :=
  let placed := placedEntry futures signal
  placed.tasks.head?.bind fun task =>
    (resumeEntry crudeSetup placed.shared task (.fill ⟨100, 101, .complete⟩)).1.position

theorem placedEntry_records {futures : Rat} {signal : Signal} {pos : Position}
    (flat : (placedEntry futures signal).shared.position = none)
    (recorded : filledPosition futures signal = some pos) :
    Records crudeSetup signal (placedEntry futures signal).shared pos := by
  obtain ⟨task, first, fills⟩ := Option.bind_eq_some_iff.mp recorded
  have member : task ∈ (placedEntry futures signal).tasks := List.mem_of_mem_head? first
  obtain ⟨other, started, awaits⟩ := run_awaits crudeSetup (crudeEngine futures) _ task member
  have same : other = signal := by simpa using started
  subst same
  exact ⟨task, _, awaits, by simp [flat], fills⟩

/-- The cascade of the examples, at half past ten. -/
def cascadeTime : Stamp := ⟨20000 * 86400000000 + 630 * 60000000, none⟩

def cascadeSignal : Raised :=
  ((Scan.cascade cascadeTime).raises plainFrames (crudeBook 5998)).get (by decide +kernel)

def cascadePosition : Position :=
  (filledPosition 5998 (signalOf cascadeSignal 630 true)).get (by decide)

/-- The future is at 5998 and the stop of the cascade at 5993. -/
theorem cascade_stop_in_futures :
    StopInFutures plainFrames crudeSetup crudeExits (crudeBook 5998) (.cascade cascadeTime)
      cascadeSignal cascadePosition
      (placedEntry 5998 (signalOf cascadeSignal 630 true)).shared.market.spotCache :=
  (stop_in_futures_iff plainFrames plainFrames_tabulates crudeSetup crudeExits rfl rfl
    (crudeBook 5998) (.cascade cascadeTime) cascadeSignal (by decide +kernel) 630 true
    (placedEntry 5998 (signalOf cascadeSignal 630 true)).shared cascadePosition
    (placedEntry_records (by decide +kernel) (by decide +kernel))
    ⟨by decide +kernel, by decide +kernel⟩).mpr ⟨⟨cascadeTime, rfl⟩, by decide +kernel⟩

def putSignal : Raised :=
  ((Scan.normal .pe1).raises plainFrames (crudeBook 6012)).get (by decide +kernel)

def putPosition : Position :=
  (filledPosition 6012 (signalOf putSignal 630 true)).get (by decide)

/-- The put of a normal scan has its stop at 100, from premiums, and the first tick of
the future at its entry price of 6012 sells it. -/
theorem put_stopped_at_entry :
    (Scan.normal .pe1).raises plainFrames (crudeBook 6012) = some putSignal ∧
      Records crudeSetup (signalOf putSignal 630 true)
        (placedEntry 6012 (signalOf putSignal 630 true)).shared putPosition ∧
      (placedEntry 6012 (signalOf putSignal 630 true)).shared.market.spotCache = 6012 ∧
      FarBelow crudeSetup.slBuf 6012 ((crudeBook 6012).barsCe1 ++ (crudeBook 6012).barsPe1) ∧
      putPosition.slPrice = 100 ∧ sells crudeExits putPosition 6012 = true ∧
      ¬ StopInFutures plainFrames crudeSetup crudeExits (crudeBook 6012) (.normal .pe1)
        putSignal putPosition 6012 := by
  have sold : sells crudeExits putPosition 6012 = true := by decide +kernel
  refine ⟨by decide +kernel, placedEntry_records (by decide +kernel) (by decide +kernel),
    by decide +kernel, ⟨by decide +kernel, by decide +kernel⟩, by decide +kernel, sold, ?_⟩
  intro works
  have survives := works.survives
  rw [sold] at survives
  cases survives

end Crude

end OptionChain.FuturesStops
