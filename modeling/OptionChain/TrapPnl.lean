import OptionChain.ExitConservation
import OptionChain.TrapEntry

/-!
# The recorded P&L of a trap position

A trade record takes the price of the tick that its exit was decided on, and the
entry price is the fill of the traded strike. The tick may be one of the scanned
strike or of the future, and the floor is compared with what these ticks make of the
position. Beside the exits of a book, `priced` keeps what the option itself says: the
premium of the traded strike at every moment, so that each accepted sale and each
look at the floor has its real figures.

`pnl_along` says when both agree: exits conserve the quantity, every price an exit is
recorded at or the floor is looked at with is the premium, a half exit is one of a
lot or more, and no half exit of futures mode is taken under a floor.
-/

namespace OptionChain.TrapPnl

open Broker Rounding TrapPosition TrapExit ExitConservation

/-- A sale of the broker, at the premium when its exit began. -/
structure Sale where
  premium : Rat
  qty : Int
deriving DecidableEq

/-- The P&L a look at the floor is taken on, and the P&L of the option then. -/
structure Look where
  used : Rat
  real : Rat
deriving DecidableEq

/-- A book with the real figures beside it. -/
structure Priced where
  engine : Engine
  realised : Rat := 0
  sales : List Sale := []
  looks : List Look := []
deriving DecidableEq

/-- A waiting exit and the premium when it began. -/
structure PricedTask where
  task : Task
  premium : Rat
deriving DecidableEq

/-- The tick of a handler that reaches `_check_tick_exit`. -/
def checkedTick (setup : Setup) (engine : Engine) : Handler → Option Tick
  | .optionTick tick =>
      if engine.isOpen ∧ tick.tracks engine.pos.leg then some tick.toTick else none
  | .indexTick tick =>
      if setup.htfSource = .futures ∧ engine.isOpen ∧ engine.pos.leg = .fut then some tick
      else none
  | .stop _ | .endOfDay _ => none

/-- An answer that ends `_place_exit`. -/
def returns : Task → Answer → Bool
  | .login _, .broker ready => !ready
  | .placing _ _, .placed _ | .placing _ _, .raised => true
  | _, _ => false

/-- The tick whose check goes on once `_place_exit` has returned. -/
def resumedTick (task : Task) (answer : Answer) : Option Tick :=
  if returns task answer then
    match task.exit.after with
    | .tickT1 tick => some tick
    | .optionT1 | .close => none
  else none

/-- A segment that ends in a fresh half exit. -/
def beginsHalf : Option Task → Bool
  | some (.login exit) => !exit.full
  | some (.placing _ _) | none => false

section Program

variable (setup : Setup)

/-- A segment looks at the floor with a tick, unless T1 waits first or the trail
raises. -/
def looksAt (outcome : Engine × Option Task) (tick : Tick) : Bool :=
  floorWatched setup outcome.1.pos && !beginsHalf outcome.2 &&
    !(!setup.noTargetTsl && outcome.1.pos.t1Hit && decide (tick.trail = .raised))

/-- What the half taken in a segment really makes, at the premium of the moment. -/
def realisedAfter (state : Priced) (engine : Engine) (premium : Rat) : Rat :=
  if state.engine.pos.t1Hit = false ∧ engine.pos.t1Hit = true then
    (premium - engine.pos.entryPrice) * engine.pos.t1Qty
  else state.realised

/-- What remains of the position, at the premium of the moment. -/
def running (pos : Position) (premium : Rat) : Rat :=
  (premium - pos.entryPrice) * pos.remainingQty

/-- The look at the floor in a segment. -/
def lookOf (realised premium : Rat) (outcome : Engine × Option Task) (tick : Option Tick) :
    List Look :=
  (tick.toList.filter (looksAt setup outcome)).map fun tick =>
    ⟨floorPnl setup outcome.1.pos tick.ltp, realised + running outcome.1.pos premium⟩

/-- The figures after a segment. -/
def priceSegment (state : Priced) (outcome : Engine × Option Task) (premium : Rat)
    (tick : Option Tick) (sales : List Sale) : Priced :=
  let realised := realisedAfter state outcome.1 premium
  { engine := outcome.1
    realised := realised
    sales := state.sales ++ sales
    looks := state.looks ++ lookOf setup realised premium outcome tick }

/-- The start of a handler, at a premium. -/
def pricedStart (state : Priced) (moment : Handler × Rat) : Priced × Option PricedTask :=
  let outcome := startHandler setup state.engine moment.1
  (priceSegment setup state outcome moment.2 (checkedTick setup state.engine moment.1) [],
    outcome.2.map fun task => ⟨task, moment.2⟩)

/-- The orders that a segment had accepted, at the premium of their exit. -/
def newSales (before after : Engine) (premium : Rat) : List Sale :=
  (after.accepted.drop before.accepted.length).map fun request => ⟨premium, request.qty⟩

/-- The answer to a waiting exit, at a premium. A fresh exit begins at this premium. -/
def pricedResume (state : Priced) (waiting : PricedTask) (moment : Answer × Rat) :
    Priced × Option PricedTask :=
  let outcome := resumeExit setup state.engine waiting.task moment.1
  (priceSegment setup state outcome moment.2 (resumedTick waiting.task moment.1)
      (newSales state.engine outcome.1 waiting.premium),
    outcome.2.map fun task =>
      ⟨task, if beginsExit (some task) then moment.2 else waiting.premium⟩)

/-- The exits of a book with the real figures beside them. -/
def priced : Tasks.Program Priced (Handler × Rat) PricedTask (Answer × Rat) where
  start := pricedStart setup
  resume := pricedResume setup

end Program

/-- The same system without the figures. -/
def plain (system : Tasks.System Priced PricedTask) : Tasks.System Engine Task :=
  ⟨system.shared.engine, system.tasks.map PricedTask.task⟩

def plainEvent : Tasks.Event (Handler × Rat) (Answer × Rat) → Tasks.Event Handler Answer
  | .start moment => .start moment.1
  | .resume index moment => .resume index moment.1

/-- The figures stand beside the exits and change nothing of them. -/
theorem step_plain (setup : Setup) (system : Tasks.System Priced PricedTask)
    (event : Tasks.Event (Handler × Rat) (Answer × Rat)) :
    plain (Tasks.step (priced setup) system event) =
      Tasks.step (exits setup) (plain system) (plainEvent event) := by
  obtain ⟨state, tasks⟩ := system
  cases event with
  | start moment =>
    simp only [plain, plainEvent, Tasks.step, priced, pricedStart, exits, priceSegment,
      List.map_append]
    cases (startHandler setup state.engine moment.1).2 <;> rfl
  | resume index moment =>
    simp only [plain, plainEvent, Tasks.step, List.getElem?_map]
    cases tasks[index]? with
    | none => rfl
    | some waiting =>
      simp only [Option.map_some, priced, pricedResume, exits, priceSegment, List.map_append,
        List.map_take, List.map_drop]
      cases (resumeExit setup state.engine waiting.task moment.1).2 <;> rfl

theorem run_plain (setup : Setup) (start : Tasks.System Priced PricedTask)
    (events : List (Tasks.Event (Handler × Rat) (Answer × Rat))) :
    plain (Runs.run (Tasks.step (priced setup)) start events) =
      Runs.run (Tasks.step (exits setup)) (plain start) (events.map plainEvent) := by
  induction events generalizing start with
  | nil => rfl
  | cons event rest inductionHypothesis =>
    rw [Runs.run_cons, inductionHypothesis, step_plain, List.map_cons, Runs.run_cons]

/-- The P&L in the trade records. -/
def recordedPnl (engine : Engine) : Rat := (engine.trades.map ClosedTrade.pnl).sum

/-- The quantity in the trade records. -/
def recordedQty (engine : Engine) : Int := (engine.trades.map ClosedTrade.qty).sum

/-- What the option made on its sales. -/
def optionPnl (entryPrice : Rat) (sales : List Sale) : Rat :=
  (sales.map fun sale => (sale.premium - entryPrice) * sale.qty).sum

/-- The records say what the option made and, once the position is cleared, cover all
of it, and every look at the floor was taken on realised plus running P&L. -/
structure OptionPnl (state : Priced) : Prop where
  recorded : recordedPnl state.engine = optionPnl state.engine.pos.entryPrice state.sales
  whole : state.engine.isOpen = false → recordedQty state.engine = state.engine.pos.totalQty
  floor : ∀ look ∈ state.looks, look.used = look.real

/-- The price that a handler brings. -/
def handlerPrice : Handler → Rat
  | .optionTick tick => tick.ltp
  | .indexTick tick => tick.ltp
  | .stop _ => 0
  | .endOfDay eodLtp => eodLtp

section Fair

variable (setup : Setup)

/-- A handler begins an exit at the premium in paise and only while no full exit waits,
looks at the floor with the premium, and takes a half of at least one contract, in
futures mode without a floor. -/
def FairStart (state : Priced) (tasks : List PricedTask) (moment : Handler × Rat) : Prop :=
  let outcome := startHandler setup state.engine moment.1
  MayStart setup state.engine (tasks.map PricedTask.task) moment.1 ∧
    (beginsExit outcome.2 = true →
      handlerPrice moment.1 = moment.2 ∧ roundTo 2 moment.2 = moment.2) ∧
    (∀ tick ∈ checkedTick setup state.engine moment.1, looksAt setup outcome tick = true →
      tick.ltp = moment.2) ∧
    (state.engine.pos.t1Hit = false → outcome.1.pos.t1Hit = true →
      1 < state.engine.pos.totalQty ∧ (setup.htfSource = .futures → setup.profitFloor ≤ 0))

/-- Every exit goes through, a full one after all others, and what follows a half exit
is priced at the premium of that moment. -/
def FairResume (state : Priced) (others : List PricedTask) (waiting : PricedTask)
    (moment : Answer × Rat) : Prop :=
  let outcome := resumeExit setup state.engine waiting.task moment.1
  MayResume setup state.engine (others.map PricedTask.task) waiting.task moment.1 ∧
    ∀ tick ∈ resumedTick waiting.task moment.1,
      (beginsExit outcome.2 = true → tick.ltp = moment.2 ∧ roundTo 2 moment.2 = moment.2) ∧
        (looksAt setup outcome tick = true → tick.ltp = moment.2)

instance (state : Priced) (tasks : List PricedTask) (moment : Handler × Rat) :
    Decidable (FairStart setup state tasks moment) :=
  inferInstanceAs (Decidable (_ ∧ (_ → _ ∧ _) ∧ (∀ _ ∈ _, _ → _) ∧ (_ → _ → _ ∧ (_ → _))))

instance (state : Priced) (others : List PricedTask) (waiting : PricedTask)
    (moment : Answer × Rat) : Decidable (FairResume setup state others waiting moment) :=
  inferInstanceAs (Decidable (_ ∧ ∀ _ ∈ _, (_ → _ ∧ _) ∧ (_ → _)))

end Fair

section Segments

/-- The figures of a position that its exits read. -/
structure SameFigures (pos other : Position) : Prop where
  entry : other.entryPrice = pos.entryPrice
  total : other.totalQty = pos.totalQty
  half : other.t1Qty = pos.t1Qty
  remaining : other.remainingQty = pos.remainingQty
  hit : other.t1Hit = pos.t1Hit
  realised : other.t1RealisedPnl = pos.t1RealisedPnl

/-- What the floor and the stop do with a tick: nothing, a full exit at its price, or
clear a position of which nothing remains. -/
inductive Settled (engine : Engine) (price : Rat) : Engine × Option Task → Prop where
  | quiet (pos : Position) (same : SameFigures engine.pos pos) :
      Settled engine price ({ engine with pos := pos }, none)
  | sells (pos : Position) (same : SameFigures engine.pos pos) (exit : Exit)
      (full : exit.full = true) (ltp : exit.ltp = price) :
      Settled engine price ({ engine with pos := pos }, some (.login exit))
  | empties (pos : Position) (same : SameFigures engine.pos pos) (exit : Exit)
      (nothing : pos.remainingQty ≤ 0) :
      Settled engine price (closeOut { engine with pos := pos } exit, none)

/-- T1 on a position that is whole: half of it leaves, and outside futures mode what it
makes is kept. -/
structure Halved (setup : Setup) (pos : Position) (price : Rat) (halved : Position) : Prop where
  whole : pos.t1Hit = false
  hit : halved.t1Hit = true
  entry : halved.entryPrice = pos.entryPrice
  half : halved.t1Qty = pos.t1Qty
  realised : setup.htfSource ≠ .futures → setup.noTargetTsl = false ∧
    halved.t1RealisedPnl = (price - pos.entryPrice) * pos.t1Qty

/-- What a handler does up to its first await. -/
inductive Started (setup : Setup) (engine : Engine) (price : Rat) :
    Engine × Option Task → Prop where
  | settled (outcome : Engine × Option Task) (settles : Settled engine price outcome) :
      Started setup engine price outcome
  | clears : Started setup engine price ({ engine with isOpen := false }, none)
  | halves (pos : Position) (halved : Halved setup engine.pos price pos) (exit : Exit)
      (half : exit.full = false) (ltp : exit.ltp = price) :
      Started setup engine price ({ engine with pos := pos }, some (.login exit))

variable {setup : Setup} {engine : Engine}

theorem beginClose_settled {pos : Position} (same : SameFigures engine.pos pos) (exit : Exit)
    (full : exit.full = true) (share : exit.qty = pos.remainingQty)
    (isOpen : engine.isOpen = true) :
    Settled engine exit.ltp (beginClose { engine with pos := pos } exit) := by
  unfold beginClose
  split
  case isTrue ends =>
    have nothing : exit.qty ≤ 0 := by simpa [returnsAtOnce, isOpen] using ends
    exact .empties pos same exit (by omega)
  case isFalse waits => exact .sells pos same exit full rfl

theorem lockFloor_figures (pos : Position) (ltp : Rat) :
    SameFigures pos (lockFloor setup pos ltp) := by
  unfold lockFloor
  split <;> exact ⟨rfl, rfl, rfl, rfl, rfl, rfl⟩

theorem checkStops_settled (ltp : Rat) (isOpen : engine.isOpen = true) :
    Settled engine ltp (checkStops setup engine ltp) := by
  have same : SameFigures engine.pos (lockFloor setup engine.pos ltp) :=
    lockFloor_figures engine.pos ltp
  unfold checkStops
  dsimp only
  split
  · exact beginClose_settled same ⟨_, ltp, .floorSl, ltp, .close⟩ rfl rfl isOpen
  · split
    · exact beginClose_settled same ⟨_, _, _, ltp, .close⟩ rfl rfl isOpen
    · exact .quiet _ same

/-- A trail in front of the stops changes nothing of the figures. -/
theorem settled_figures (pos : Position) (same : SameFigures engine.pos pos) {price : Rat}
    {outcome : Engine × Option Task} (settles : Settled { engine with pos := pos } price outcome) :
    Settled engine price outcome := by
  have through {other : Position} (later : SameFigures pos other) : SameFigures engine.pos other :=
    ⟨later.entry.trans same.entry, later.total.trans same.total, later.half.trans same.half,
      later.remaining.trans same.remaining, later.hit.trans same.hit,
      later.realised.trans same.realised⟩
  cases settles with
  | quiet other later => exact .quiet other (through later)
  | sells other later exit full ltp => exact .sells other (through later) exit full ltp
  | empties other later exit nothing => exact .empties other (through later) exit nothing

theorem settleTick_settled (tick : Tick) (isOpen : engine.isOpen = true) :
    Settled engine tick.ltp (settleTick setup engine tick) := by
  unfold settleTick
  split
  case isTrue trails =>
    cases moved : tick.trail with
    | kept => exact checkStops_settled tick.ltp isOpen
    | moved trailSl =>
      apply settled_figures { engine.pos with trailSl := trailSl } ⟨rfl, rfl, rfl, rfl, rfl, rfl⟩
      exact checkStops_settled tick.ltp isOpen
    | raised => exact .quiet engine.pos ⟨rfl, rfl, rfl, rfl, rfl, rfl⟩
  case isFalse plain => exact checkStops_settled tick.ltp isOpen

/-- A half exit of something waits. -/
theorem beginHalf_waits {marked : Engine} {exit : Exit} (isOpen : marked.isOpen = true)
    (positive : 0 < exit.qty) : beginHalf setup marked exit = (marked, some (.login exit)) := by
  have waits : returnsAtOnce marked exit = false := by simp [returnsAtOnce, isOpen, positive]
  simp [beginHalf, waits]

theorem half_positive (pos : Position) (lots : 1 < pos.totalQty) : 0 < pos.t1Qty := by
  have halved := pos.halved
  omega

end Segments

section Starts

variable {setup : Setup} {engine : Engine}

theorem settled_hit {price : Rat} {outcome : Engine × Option Task}
    (settles : Settled engine price outcome) : outcome.1.pos.t1Hit = engine.pos.t1Hit := by
  cases settles with
  | quiet pos same => exact same.hit
  | sells pos same exit full ltp => exact same.hit
  | empties pos same exit nothing => exact same.hit

theorem halfDone_hit (exit : Exit) (orderId : Option String) (isOpen : engine.isOpen = true) :
    (halfDone setup engine exit orderId).1.pos.t1Hit = engine.pos.t1Hit := by
  unfold halfDone
  cases exit.after with
  | tickT1 tick =>
    have settles : Settled (recordHalf engine exit orderId) tick.ltp
      (settleTick setup (recordHalf engine exit orderId) tick) := settleTick_settled tick isOpen
    have same := settled_hit settles
    exact same
  | optionT1 => rfl
  | close => rfl

/-- A half that is taken of two contracts or more waits for its order. -/
theorem beginHalf_started {price : Rat} {marked : Position} {exit : Exit}
    (halved : Halved setup engine.pos price marked) (half : exit.full = false)
    (ltp : exit.ltp = price) (share : exit.qty = engine.pos.t1Qty)
    (isOpen : engine.isOpen = true)
    (lots : engine.pos.t1Hit = false →
      (beginHalf setup { engine with pos := marked } exit).1.pos.t1Hit = true →
      1 < engine.pos.totalQty) :
    Started setup engine price (beginHalf setup { engine with pos := marked } exit) := by
  have opened : ({ engine with pos := marked } : Engine).isOpen = true := isOpen
  have taken : (beginHalf setup { engine with pos := marked } exit).1.pos.t1Hit = true := by
    unfold beginHalf
    split
    · exact (halfDone_hit exit none opened).trans halved.hit
    · exact halved.hit
  have positive : 0 < exit.qty := by
    rw [share]
    exact half_positive engine.pos (lots halved.whole taken)
  rw [beginHalf_waits opened positive]
  exact .halves marked halved exit half ltp

theorem checkTickExit_started (tick : Tick) (isOpen : engine.isOpen = true)
    (lots : engine.pos.t1Hit = false → (checkTickExit setup engine tick).1.pos.t1Hit = true →
      1 < engine.pos.totalQty) :
    Started setup engine tick.ltp (checkTickExit setup engine tick) := by
  unfold checkTickExit at lots ⊢
  split
  case isTrue whole =>
    rw [dif_pos whole] at lots
    split
    case isTrue reached =>
      rw [if_pos reached] at lots
      have halved : Halved setup engine.pos tick.ltp
          { engine.pos.takeT1 whole with
            t1RealisedPnl := (tick.ltp - engine.pos.entryPrice) * engine.pos.t1Qty } :=
        ⟨whole, rfl, rfl, rfl, fun _ => ⟨reached.1, rfl⟩⟩
      exact beginHalf_started halved rfl rfl rfl isOpen lots
    case isFalse below => exact .settled _ (settleTick_settled tick isOpen)
  case isFalse hit => exact .settled _ (settleTick_settled tick isOpen)

theorem checkOptionT1_started (optLtp : Rat) (futures : setup.htfSource = .futures)
    (isOpen : engine.isOpen = true)
    (lots : engine.pos.t1Hit = false → (checkOptionT1 setup engine optLtp).1.pos.t1Hit = true →
      1 < engine.pos.totalQty) :
    Started setup engine optLtp (checkOptionT1 setup engine optLtp) := by
  have quiet : Started setup engine optLtp (engine, none) :=
    .settled _ (.quiet engine.pos ⟨rfl, rfl, rfl, rfl, rfl, rfl⟩)
  unfold checkOptionT1 at lots ⊢
  split
  case isTrue whole =>
    rw [dif_pos whole] at lots
    split
    case isTrue reached =>
      rw [if_pos reached] at lots
      have halved : Halved setup engine.pos optLtp (engine.pos.takeT1 whole) :=
        ⟨whole, rfl, rfl, rfl, fun other => absurd futures other⟩
      exact beginHalf_started halved rfl rfl rfl isOpen lots
    case isFalse below => exact quiet
  case isFalse hit => exact quiet

/-- What a handler does with the price it brings. -/
theorem startHandler_started (handler : Handler)
    (lots : engine.pos.t1Hit = false → (startHandler setup engine handler).1.pos.t1Hit = true →
      1 < engine.pos.totalQty) :
    Started setup engine (handlerPrice handler) (startHandler setup engine handler) := by
  have quiet (price : Rat) : Started setup engine price (engine, none) :=
    .settled _ (.quiet engine.pos ⟨rfl, rfl, rfl, rfl, rfl, rfl⟩)
  cases handler with
  | optionTick tick =>
    simp only [startHandler, optTick] at lots ⊢
    split
    case isTrue isOpen =>
      rw [if_pos isOpen] at lots
      split
      case isTrue tracked =>
        rw [if_pos tracked] at lots
        exact checkTickExit_started tick.toTick isOpen lots
      case isFalse untracked =>
        rw [if_neg untracked] at lots
        split
        case isTrue near =>
          rw [if_pos near] at lots
          exact checkOptionT1_started tick.ltp near.1 isOpen lots
        case isFalse far => exact quiet _
    case isFalse isClosed => exact quiet _
  | indexTick tick =>
    simp only [startHandler, idxTick] at lots ⊢
    split
    case isTrue tracked =>
      rw [if_pos tracked] at lots
      exact checkTickExit_started tick tracked.2.1 lots
    case isFalse untracked => exact quiet _
  | stop trailSl =>
    simp only [startHandler, moveStop]
    split
    · exact .settled _ (.quiet { engine.pos with trailSl := trailSl }
        ⟨rfl, rfl, rfl, rfl, rfl, rfl⟩)
    · exact quiet _
  | endOfDay eodLtp =>
    simp only [startHandler, eodSquareOff]
    split
    case isTrue left =>
      exact .settled _ (beginClose_settled ⟨rfl, rfl, rfl, rfl, rfl, rfl⟩
        ⟨engine.pos.remainingQty, 0, .eod, eodLtp, .close⟩ rfl rfl left.1)
    case isFalse nothing => exact .clears

end Starts

section Agreement

variable {setup : Setup} {engine : Engine} {sales : List Sale} {realised : Rat}

/-- The records agree with the sales, and what the position keeps of T1 with what the
half made. -/
structure Agrees (setup : Setup) (engine : Engine) (sales : List Sale) (realised : Rat) :
    Prop where
  paise : roundTo 2 engine.pos.entryPrice = engine.pos.entryPrice
  quantity : recordedQty engine = sold engine
  recorded : recordedPnl engine = optionPnl engine.pos.entryPrice sales
  whole : engine.pos.t1Hit = false → realised = 0
  halved : engine.pos.t1Hit = true → 0 < setup.profitFloor →
    setup.noTargetTsl = false ∧ engine.pos.t1RealisedPnl = realised

/-- Where the floor is watched, it is compared with realised plus running P&L. -/
theorem floorPnl_real (agrees : Agrees setup engine sales realised)
    (watched : floorWatched setup engine.pos = true) (ltp : Rat) :
    floorPnl setup engine.pos ltp = realised + running engine.pos ltp := by
  obtain ⟨positive, watchedBy⟩ : 0 < setup.profitFloor ∧
      (setup.noTargetTsl = true ∨ engine.pos.t1Hit = true) := by
    simpa [floorWatched] using watched
  have balanced := engine.pos.balanced
  cases hit : engine.pos.t1Hit with
  | false =>
    have untargeted : setup.noTargetTsl = true := by simpa [hit] using watchedBy
    have everything : engine.pos.remainingQty = engine.pos.totalQty := by simpa [hit] using balanced
    rw [agrees.whole hit, floorPnl, if_pos untargeted, running, everything, zero_add]
  | true =>
    obtain ⟨targeted, kept⟩ := agrees.halved hit positive
    have nonneg := engine.pos.remaining_nonneg
    simp only [floorPnl, targeted, Bool.false_eq_true, if_false, running, kept]
    split
    case isTrue left => rfl
    case isFalse nothing =>
      have zero : engine.pos.remainingQty = 0 := by omega
      simp [zero]

/-- The floor, the stop and the clearing of nothing keep the agreement. -/
theorem settled_agrees {price : Rat} {outcome : Engine × Option Task}
    (settles : Settled engine price outcome) (agrees : Agrees setup engine sales realised) :
    Agrees setup outcome.1 sales realised := by
  have moved {pos : Position} (same : SameFigures engine.pos pos) :
      Agrees setup { engine with pos := pos } sales realised := by
    constructor
    case paise =>
      show roundTo 2 pos.entryPrice = pos.entryPrice
      rw [same.entry]
      exact agrees.paise
    case quantity => exact agrees.quantity
    case recorded =>
      show recordedPnl engine = optionPnl pos.entryPrice sales
      rw [same.entry]
      exact agrees.recorded
    case whole => exact fun whole => agrees.whole (same.hit.symm.trans whole)
    case halved =>
      intro hit positive
      obtain ⟨targeted, kept⟩ := agrees.halved (same.hit.symm.trans hit) positive
      exact ⟨targeted, same.realised.trans kept⟩
  cases settles with
  | quiet pos same => exact moved same
  | sells pos same exit full ltp => exact moved same
  | empties pos same exit nothing =>
    obtain ⟨paise, quantity, recorded, whole, halved⟩ := moved same
    have zero : pos.remainingQty = 0 := by
      have nonneg := pos.remaining_nonneg
      omega
    have free : roundTo 2 0 = 0 := by decide +kernel
    refine ⟨paise, ?_, ?_, whole, halved⟩
    · simpa [recordedQty, closeOut, closedTrade, zero, sold] using quantity
    · simpa [recordedPnl, closeOut, closedTrade, zero, free] using recorded

/-- So does T1, with what it makes at the price. -/
theorem halved_agrees {price : Rat} {pos : Position}
    (halved : Halved setup engine.pos price pos)
    (floorless : setup.htfSource = .futures → setup.profitFloor ≤ 0)
    (agrees : Agrees setup engine sales realised) :
    Agrees setup { engine with pos := pos } sales ((price - pos.entryPrice) * pos.t1Qty) := by
  constructor
  case paise =>
    show roundTo 2 pos.entryPrice = pos.entryPrice
    rw [halved.entry]
    exact agrees.paise
  case quantity => exact agrees.quantity
  case recorded =>
    show recordedPnl engine = optionPnl pos.entryPrice sales
    rw [halved.entry]
    exact agrees.recorded
  case whole =>
    intro whole
    rw [show pos.t1Hit = true from halved.hit] at whole
    cases whole
  case halved =>
    intro _ positive
    have option : setup.htfSource ≠ .futures := by
      intro futures
      exact absurd positive (not_lt.mpr (floorless futures))
    obtain ⟨targeted, kept⟩ := halved.realised option
    refine ⟨targeted, ?_⟩
    rw [halved.entry, halved.half]
    exact kept

/-- A recorded sale at the premium. The quantity in the record is that of the exit. -/
theorem sale_agrees {after : Engine} {trade : ClosedTrade} {request : OrderRequest}
    {premium : Rat} (agrees : Agrees setup engine sales realised)
    (same : SameFigures engine.pos after.pos) (records : after.trades = engine.trades ++ [trade])
    (accepts : after.accepted = engine.accepted ++ [request])
    (priced : trade.pnl = roundTo 2 ((premium - engine.pos.entryPrice) * trade.qty))
    (quoted : roundTo 2 premium = premium) (share : trade.qty = request.qty) :
    Agrees setup after (sales ++ [⟨premium, request.qty⟩]) realised := by
  constructor
  case paise =>
    rw [same.entry]
    exact agrees.paise
  case quantity =>
    have before := agrees.quantity
    simp only [recordedQty, sold] at before ⊢
    simp [records, accepts, before, share]
  case recorded =>
    have before := agrees.recorded
    have made : trade.pnl = (premium - engine.pos.entryPrice) * request.qty := by
      rw [priced, roundTo_sub_mul quoted agrees.paise, share]
    simp only [recordedPnl, optionPnl] at before ⊢
    simp [records, before, made, same.entry]
  case whole =>
    intro whole
    exact agrees.whole (same.hit.symm.trans whole)
  case halved =>
    intro hit positive
    obtain ⟨targeted, kept⟩ := agrees.halved (same.hit.symm.trans hit) positive
    exact ⟨targeted, same.realised.trans kept⟩

end Agreement

section Steps

variable {setup : Setup} {engine : Engine} {state : Priced} {tasks others : List PricedTask}

/-- A waiting exit is recorded at the premium it began with, which is in paise. -/
def Quoted (waiting : PricedTask) : Prop :=
  waiting.task.exit.ltp = waiting.premium ∧ roundTo 2 waiting.premium = waiting.premium

/-- The invariant of the figures and the waiting exits. -/
structure Books (setup : Setup) (state : Priced) (tasks : List PricedTask) : Prop where
  balanced : Balanced state.engine (tasks.map PricedTask.task)
  agrees : Agrees setup state.engine state.sales state.realised
  quoted : ∀ waiting ∈ tasks, Quoted waiting
  floor : ∀ look ∈ state.looks, look.used = look.real

theorem books_unordered {tasks other : List PricedTask} (permuted : tasks.Perm other)
    (books : Books setup state tasks) : Books setup state other := by
  constructor
  case balanced => exact balanced_unordered (permuted.map _) books.balanced
  case agrees => exact books.agrees
  case quoted =>
    intro waiting member
    exact books.quoted waiting (permuted.mem_iff.mpr member)
  case floor => exact books.floor

/-- Looks with the premium are taken on the real figures. -/
theorem lookOf_real {realised premium : Rat} {sales : List Sale} {outcome : Engine × Option Task}
    {tick : Option Tick} (agrees : Agrees setup outcome.1 sales realised)
    (fair : ∀ t ∈ tick, looksAt setup outcome t = true → t.ltp = premium) :
    ∀ look ∈ lookOf setup realised premium outcome tick, look.used = look.real := by
  intro look member
  obtain ⟨t, kept, same⟩ := List.mem_map.mp member
  obtain ⟨brought, looks⟩ := List.mem_filter.mp kept
  have price := fair t (Option.mem_toList.mp brought) looks
  have watched : floorWatched setup outcome.1.pos = true := by
    simp only [looksAt, Bool.and_eq_true] at looks
    exact looks.1.1
  subst same
  rw [price]
  exact floorPnl_real agrees watched premium

/-- Only T1 makes something that was not realised before. -/
theorem realisedAfter_same (after : Engine) (same : after.pos.t1Hit = state.engine.pos.t1Hit)
    (premium : Rat) : realisedAfter state after premium = state.realised := by
  unfold realisedAfter
  rw [same]
  split
  case isTrue both =>
    rw [both.1] at both
    simp at both
  case isFalse => rfl

/-- The figures after a segment, from the agreement of what it leaves. -/
theorem segment_books (began : Rat) {outcome : Engine × Option Task} {premium : Rat}
    {tick : Option Tick} {sales : List Sale} {next : Option PricedTask}
    (older : ∀ waiting ∈ others, Quoted waiting)
    (floor : ∀ look ∈ state.looks, look.used = look.real)
    (balanced : Balanced outcome.1 (outcome.2.toList ++ others.map PricedTask.task))
    (agrees : Agrees setup outcome.1 (state.sales ++ sales)
      (realisedAfter state outcome.1 premium))
    (fair : ∀ t ∈ tick, looksAt setup outcome t = true → t.ltp = premium)
    (kept : next = outcome.2.map fun task => ⟨task, began⟩)
    (quoted : ∀ task ∈ outcome.2, task.exit.ltp = began ∧ roundTo 2 began = began) :
    Books setup (priceSegment setup state outcome premium tick sales) (next.toList ++ others) := by
  constructor
  case balanced =>
    have tasks : (next.toList ++ others).map PricedTask.task =
        outcome.2.toList ++ others.map PricedTask.task := by
      rw [kept]
      cases outcome.2 <;> rfl
    rw [tasks]
    exact balanced
  case agrees => exact agrees
  case quoted =>
    intro waiting member
    obtain fresh | there := List.mem_append.mp member
    · rw [kept] at fresh
      obtain ⟨task, found, same⟩ := Option.map_eq_some_iff.mp (Option.mem_toList.mp fresh)
      subst same
      exact quoted task found
    · exact older waiting there
  case floor =>
    intro look member
    obtain there | fresh := List.mem_append.mp member
    · exact floor look there
    · exact lookOf_real agrees fair look fresh

theorem start_books (moment : Handler × Rat) (books : Books setup state tasks)
    (fair : FairStart setup state tasks moment) :
    Books setup (pricedStart setup state moment).1
      ((pricedStart setup state moment).2.toList ++ tasks) := by
  obtain ⟨handler, premium⟩ := moment
  obtain ⟨alone, sold, looked, taken⟩ := fair
  have started : Started setup state.engine (handlerPrice handler)
      (startHandler setup state.engine handler) :=
    startHandler_started handler fun whole hit => (taken whole hit).1
  have balanced := start_balanced handler books.balanced alone
  refine segment_books premium books.quoted books.floor balanced ?_ looked rfl ?_
  · rw [List.append_nil]
    generalize startHandler setup state.engine handler = outcome at *
    cases started with
    | settled _ settles =>
      rw [realisedAfter_same _ (settled_hit settles)]
      exact settled_agrees settles books.agrees
    | clears =>
      have cleared : Agrees setup { state.engine with isOpen := false } state.sales
          state.realised := by
        obtain ⟨paise, quantity, recorded, whole, halved⟩ := books.agrees
        exact ⟨paise, quantity, recorded, whole, halved⟩
      rwa [← realisedAfter_same { state.engine with isOpen := false } rfl premium] at cleared
    | halves pos halved exit half ltp =>
      have price : handlerPrice handler = premium := (sold rfl).1
      have agrees := halved_agrees halved (taken halved.whole halved.hit).2 books.agrees
      rw [price] at agrees
      rw [realisedAfter, if_pos ⟨halved.whole, halved.hit⟩]
      exact agrees
  · intro task found
    have begun : beginsExit (startHandler setup state.engine handler).2 = true ∧
        task.exit.ltp = handlerPrice handler := by
      generalize startHandler setup state.engine handler = outcome at *
      cases started with
      | settled _ settles =>
        cases settles with
        | quiet pos same => cases found
        | sells pos same exit full ltp =>
          obtain rfl := Option.some.inj found
          exact ⟨rfl, ltp⟩
        | empties pos same exit nothing => cases found
      | clears => cases found
      | halves pos halved exit half ltp =>
        obtain rfl := Option.some.inj found
        exact ⟨rfl, ltp⟩
    obtain ⟨price, paise⟩ := sold begun.1
    exact ⟨begun.2.trans price, paise⟩

/-- An accepted exit is booked: one more record at the price of the exit, of its
quantity, and the order that was accepted. -/
structure Booked (engine : Engine) (exit : Exit) (request : OrderRequest) (base : Engine)
    (trade : ClosedTrade) : Prop where
  same : SameFigures engine.pos base.pos
  records : base.trades = engine.trades ++ [trade]
  accepts : base.accepted = engine.accepted ++ [request]
  pnl : trade.pnl = roundTo 2 ((exit.ltp - engine.pos.entryPrice) * trade.qty)

/-- The placed order of an exit: it is booked, and what follows a half exit settles with
the tick of T1. -/
theorem placed_settled {exit : Exit} {request : OrderRequest} (orderId : String)
    (isOpen : engine.isOpen = true) (fit : Fits engine.pos (.placing exit request)) :
    ∃ base trade price, Booked engine exit request base trade ∧ trade.qty = exit.qty ∧
      Settled base price (resumeExit setup engine (.placing exit request) (.placed orderId)) ∧
      (beginsExit (resumeExit setup engine (.placing exit request) (.placed orderId)).2 = true →
        ∃ tick ∈ resumedTick (.placing exit request) (.placed orderId), tick.ltp = price) := by
  have positive : 0 < exit.qty := fit.positive
  have share := fit.share
  rw [Task.exit_placing] at share
  cases next : exit.after with
  | close =>
    have full : exit.full = true := by simp [Exit.full, next]
    have all : exit.qty = engine.pos.remainingQty := by simpa [full] using share
    refine ⟨closeOut { engine with accepted := engine.accepted ++ [request] } exit,
      closedTrade engine.pos exit.ltp exit.reason 0, 0, ?_, ?_, ?_, ?_⟩
    · exact ⟨⟨rfl, rfl, rfl, rfl, rfl, rfl⟩, rfl, rfl, rfl⟩
    · exact all.symm
    · simp only [resumeExit, returned, next]
      exact .quiet _ ⟨rfl, rfl, rfl, rfl, rfl, rfl⟩
    · simp [resumeExit, returned, next, beginsExit]
  | optionT1 =>
    have half : exit.full = false := by simp [Exit.full, next]
    have part : exit.qty = engine.pos.t1Qty := by simpa [half] using share
    have counted : engine.pos.t1Qty ≠ 0 := by omega
    refine ⟨recordHalf { engine with accepted := engine.accepted ++ [request] } exit
      (some orderId), closedTrade engine.pos exit.ltp .t1 engine.pos.t1Qty, 0, ?_, ?_, ?_, ?_⟩
    · exact ⟨⟨rfl, rfl, rfl, rfl, rfl, rfl⟩, rfl, rfl, rfl⟩
    · simp [closedTrade, counted, part]
    · simp only [resumeExit, returned, halfDone, next]
      exact .quiet _ ⟨rfl, rfl, rfl, rfl, rfl, rfl⟩
    · simp [resumeExit, returned, halfDone, next, beginsExit]
  | tickT1 tick =>
    have half : exit.full = false := by simp [Exit.full, next]
    have part : exit.qty = engine.pos.t1Qty := by simpa [half] using share
    have counted : engine.pos.t1Qty ≠ 0 := by omega
    refine ⟨recordHalf { engine with accepted := engine.accepted ++ [request] } exit
      (some orderId), closedTrade engine.pos exit.ltp .t1 engine.pos.t1Qty, tick.ltp,
      ?_, ?_, ?_, ?_⟩
    · exact ⟨⟨rfl, rfl, rfl, rfl, rfl, rfl⟩, rfl, rfl, rfl⟩
    · simp [closedTrade, counted, part]
    · simp only [resumeExit, returned, halfDone, next]
      exact settleTick_settled tick isOpen
    · intro _
      exact ⟨tick, by simp [resumedTick, returns, next], rfl⟩

theorem settled_accepted {price : Rat} {outcome : Engine × Option Task}
    (settles : Settled engine price outcome) : outcome.1.accepted = engine.accepted := by
  cases settles <;> rfl

/-- A settled outcome begins an exit only at its price. -/
theorem settled_begins {price : Rat} {outcome : Engine × Option Task} {task : Task}
    (settles : Settled engine price outcome) (found : task ∈ outcome.2) :
    beginsExit outcome.2 = true ∧ beginsExit (some task) = true ∧ task.exit.ltp = price := by
  cases settles with
  | quiet pos same => cases found
  | sells pos same exit full ltp =>
    obtain rfl := Option.some.inj found
    exact ⟨rfl, rfl, ltp⟩
  | empties pos same exit nothing => cases found

/-- A login leaves the exit waiting for its order, at the premium it began with. -/
theorem login_books {exit : Exit} {premium now : Rat}
    (books : Books setup state (⟨.login exit, premium⟩ :: others))
    (isOpen : state.engine.isOpen = true)
    (balanced : Balanced (resumeExit setup state.engine (.login exit) (.broker true)).1
      ((resumeExit setup state.engine (.login exit) (.broker true)).2.toList ++
        others.map PricedTask.task)) :
    Books setup (pricedResume setup state ⟨.login exit, premium⟩ (.broker true, now)).1
      ((pricedResume setup state ⟨.login exit, premium⟩ (.broker true, now)).2.toList ++
        others) := by
  have outcome : resumeExit setup state.engine (.login exit) (.broker true) =
      (state.engine, some (.placing exit (sellRequest setup state.engine.pos exit))) := by
    simp [resumeExit, isOpen]
  have quoted := books.quoted ⟨.login exit, premium⟩ (by simp)
  rw [outcome] at balanced
  constructor
  case balanced => simpa [pricedResume, outcome, priceSegment] using balanced
  case agrees =>
    have same := realisedAfter_same state.engine rfl now
    simpa [pricedResume, outcome, priceSegment, newSales, same] using books.agrees
  case quoted =>
    intro waiting member
    simp only [pricedResume, outcome, Option.map_some, Option.toList_some, List.singleton_append,
      List.mem_cons] at member
    obtain fresh | older := member
    · subst fresh
      exact quoted
    · exact books.quoted waiting (by simp [older])
  case floor =>
    intro look member
    apply books.floor look
    simpa [pricedResume, outcome, priceSegment, lookOf, resumedTick, returns] using member

/-- An accepted order sells its quantity at the premium the exit began with. -/
theorem placed_books {exit : Exit} {request : OrderRequest} {orderId : String}
    {premium now : Rat} (books : Books setup state (⟨.placing exit request, premium⟩ :: others))
    (isOpen : state.engine.isOpen = true)
    (fair : FairResume setup state others ⟨.placing exit request, premium⟩
      (.placed orderId, now)) :
    Books setup (pricedResume setup state ⟨.placing exit request, premium⟩
        (.placed orderId, now)).1
      ((pricedResume setup state ⟨.placing exit request, premium⟩
        (.placed orderId, now)).2.toList ++ others) := by
  obtain ⟨allowed, again⟩ := fair
  have balanced := resume_balanced (.placing exit request) (.placed orderId) books.balanced allowed
  have fit := books.balanced.fits (.placing exit request) (by simp)
  obtain ⟨price, paise⟩ := books.quoted ⟨.placing exit request, premium⟩ (by simp)
  rw [Task.exit_placing] at price
  have asked : request.qty = exit.qty := fit.asked exit request rfl
  obtain ⟨base, trade, level, booked, share, settles, begins⟩ :=
    placed_settled orderId isOpen fit
  have sold : Agrees setup base (state.sales ++ [⟨premium, request.qty⟩]) state.realised := by
    apply sale_agrees books.agrees booked.same booked.records booked.accepts _ paise
    · rw [share, asked]
    · rw [booked.pnl, price]
  have agrees := settled_agrees settles sold
  have sales : newSales state.engine (resumeExit setup state.engine (.placing exit request)
      (.placed orderId)).1 premium = [⟨premium, request.qty⟩] := by
    rw [newSales, settled_accepted settles, booked.accepts, List.drop_left]
    rfl
  have hit := (settled_hit settles).trans booked.same.hit
  refine segment_books now (fun w member => books.quoted w (by simp [member])) books.floor
    balanced ?_ (fun tick brought => (again tick brought).2) ?_ ?_
  · rw [realisedAfter_same _ hit, sales]
    exact agrees
  · apply Option.map_congr
    intro task found
    rw [(settled_begins settles found).2.1]
    rfl
  · intro task found
    obtain ⟨fresh, -, ltp⟩ := settled_begins settles found
    obtain ⟨tick, brought, same⟩ := begins fresh
    obtain ⟨quoted, rounded⟩ := (again tick brought).1 fresh
    exact ⟨ltp.trans (same.symm.trans quoted), rounded⟩

theorem resume_books (waiting : PricedTask) (moment : Answer × Rat)
    (books : Books setup state (waiting :: others))
    (fair : FairResume setup state others waiting moment) :
    Books setup (pricedResume setup state waiting moment).1
      ((pricedResume setup state waiting moment).2.toList ++ others) := by
  obtain ⟨task, premium⟩ := waiting
  obtain ⟨answer, now⟩ := moment
  have isOpen : state.engine.isOpen = true := by
    by_contra isClosed
    have idle := (books.balanced.cleared (Bool.not_eq_true _ ▸ isClosed)).2
    simp at idle
  have through : goesThrough task answer = true := fair.1.1
  cases task with
  | login exit =>
    cases answer with
    | broker ready =>
      have answered : ready = true := through
      subst answered
      exact login_books books isOpen
        (resume_balanced (.login exit) (.broker true) books.balanced fair.1)
    | placed orderId => simp [goesThrough] at through
    | raised => simp [goesThrough] at through
  | placing exit request =>
    cases answer with
    | broker ready => simp [goesThrough] at through
    | raised => simp [goesThrough] at through
    | placed orderId => exact placed_books books isOpen fair

end Steps

/-- The obligations of the pool rule. -/
theorem books_pool (setup : Setup) :
    Tasks.PoolInvariant (priced setup) (FairStart setup) (FairResume setup) (Books setup) := by
  constructor
  case unordered =>
    intro _ _ _ permuted books
    exact books_unordered permuted books
  case starts =>
    intro _ _ moment books fair
    exact start_books moment books fair
  case resumes =>
    intro _ _ waiting moment books fair
    exact resume_books waiting moment books fair

/-- A book that has just recorded a position. -/
def opening (pos : Position) : Tasks.System Priced PricedTask where
  shared := { engine := ⟨pos, true, none, [], []⟩ }
  tasks := []

/-- What an entry records is whole and has a price in paise. -/
theorem makePosition_opening (setup : TrapEntry.Setup) (attempt : TrapEntry.Attempt)
    (orderId : String) (fill : OrderFill) :
    (TrapEntry.makePosition setup attempt orderId fill).t1Hit = false ∧
      roundTo 2 (TrapEntry.makePosition setup attempt orderId fill).entryPrice =
        (TrapEntry.makePosition setup attempt orderId fill).entryPrice :=
  ⟨rfl, roundTo_idem 2 fill.avgPrice⟩

theorem opening_books (setup : Setup) {pos : Position} (whole : pos.t1Hit = false)
    (paise : roundTo 2 pos.entryPrice = pos.entryPrice) :
    Books setup (opening pos).shared (opening pos).tasks := by
  have everything : pos.remainingQty = pos.totalQty := by simpa [whole] using pos.balanced
  constructor
  case balanced =>
    constructor
    case accounted => exact fun _ => by simpa [opening, sold] using everything
    case fits => simp [opening]
    case alone => simp [opening]
    case cleared => simp [opening]
  case agrees =>
    constructor
    case paise => exact paise
    case quantity => rfl
    case recorded => rfl
    case whole => exact fun _ => rfl
    case halved =>
      intro hit
      rw [show pos.t1Hit = true from hit] at whole
      cases whole
  case quoted => simp [opening]
  case floor => simp [opening]

/-- In a run whose exits and looks at the floor are all priced at the premium, and which
exits the position once, the records are the P&L of the option in every state. -/
theorem pnl_along (setup : Setup) (pos : Position) (whole : pos.t1Hit = false)
    (paise : roundTo 2 pos.entryPrice = pos.entryPrice)
    (events : List (Tasks.Event (Handler × Rat) (Answer × Rat)))
    (fair : Runs.Along (Tasks.step (priced setup))
      (Tasks.Guarded (FairStart setup) (FairResume setup)) (opening pos) events) :
    OptionPnl (Runs.run (Tasks.step (priced setup)) (opening pos) events).shared := by
  have books := Tasks.pool_run (books_pool setup) (opening pos) events
    (opening_books setup whole paise) fair
  constructor
  case recorded => exact books.agrees.recorded
  case whole =>
    intro isClosed
    rw [books.agrees.quantity]
    exact (books.balanced.cleared isClosed).1
  case floor => exact books.floor

section Runs

/-- A NIFTY book that scans option bars, with a floor. -/
def floorSetup : Setup where
  und := "NIFTY"
  expiry := "25JAN"
  exchange := "NFO"
  clientId := "C1"
  htfSource := .option
  noTargetTsl := false
  profitFloor := 1000

/-- A fresh call position whose traded strike is the scanned one. -/
def scannedPosition : Position where
  leg := .ce1
  optType := .ce
  strike := 24450
  spotAtEntry := 24510
  entryPrice := 200
  slPrice := 180
  trailSl := 180
  t1Price := 260
  totalQty := 75
  t1Qty := 37
  remainingQty := 75
  orderIdEntry := "E1"
  htfZone := { refTs := 1, zoneHigh := 205, zoneLow := 182, sl := 260 }
  counted := Int.natCast_nonneg 75
  halved := rfl
  balanced := rfl

/-- T1 at 262, the floor looked at and the rest stopped by the same tick. -/
def halfThenStop : List (Tasks.Event (Handler × Rat) (Answer × Rat)) :=
  [.start (.optionTick ⟨⟨210, .kept⟩, true, false, false, false⟩, 210),
    .start (.optionTick ⟨⟨262, .kept⟩, true, false, false, false⟩, 262),
    .resume 0 (.broker true, 262), .resume 0 (.placed "X1", 262), .resume 0 (.broker true, 261),
    .resume 0 (.placed "X2", 261), .start (.endOfDay 240, 240)]

theorem pnl_of_half_then_stop :
    OptionPnl (Runs.run (Tasks.step (priced floorSetup)) (opening scannedPosition)
      halfThenStop).shared :=
  pnl_along floorSetup scannedPosition rfl (by decide +kernel) halfThenStop (by decide +kernel)

/-- A tick of the future at 5950 stops a position whose option is at 180. -/
def futureStops : List (Tasks.Event (Handler × Rat) (Answer × Rat)) :=
  [.start (.indexTick ⟨5950, .kept⟩, 180), .resume 0 (.broker true, 180),
    .resume 0 (.placed "X1", 180)]

/-- The record shows a gain of 575000, the option lost 2000. -/
theorem futures_stop_records_the_future :
    let reached := (Runs.run (Tasks.step (priced crudeSetup)) (opening crudePosition)
      futureStops).shared
    recordedPnl reached.engine = 575000 ∧ optionPnl 200 reached.sales = -2000 ∧
      ¬ OptionPnl reached := by
  dsimp only
  have recorded : recordedPnl (Runs.run (Tasks.step (priced crudeSetup)) (opening crudePosition)
      futureStops).shared.engine = 575000 := by decide +kernel
  have real : optionPnl 200 (Runs.run (Tasks.step (priced crudeSetup)) (opening crudePosition)
      futureStops).shared.sales = -2000 := by decide +kernel
  have entry : (Runs.run (Tasks.step (priced crudeSetup)) (opening crudePosition)
      futureStops).shared.engine.pos.entryPrice = 200 := by decide
  refine ⟨recorded, real, ?_⟩
  intro agrees
  have same := agrees.recorded
  rw [recorded, entry, real] at same
  norm_num at same

end Runs

end OptionChain.TrapPnl
