import OptionChain.TrapStops

/-!
# The ticks of a trap book

The exits of a book in every mode, with the bars and the marks that its trailing stop
reads. Option ticks and index ticks have a loop each. A loop waits for the exit of its
tick before it takes the next one, and is not started again after an error.

The ticks here are those that the loops take: what the guard against misread prices
rejects is none of them. The candles that a tick completes come with it.
-/

namespace OptionChain.TrapTicks

open Broker Timestamps TrapPosition TrapTrail TrapStops
open TrapExit (Setup Engine Task Answer Exit)

inductive Loop where
  | running
  | waiting
  | ended
deriving DecidableEq

/-- Where a suspended exit goes on: in the tick of a loop, or at the end of the day. -/
inductive Origin where
  | option (ts : Stamp)
  | index (ts : Stamp)
  | endOfDay
deriving DecidableEq

structure Sale where
  task : Task
  origin : Origin
deriving DecidableEq

structure Book where
  engine : Engine
  marks : TrailMarks
  bars : Leg → List StoredBar
  optLoop : Loop := .running
  idxLoop : Loop := .running

/-- An option tick, the legs that it matches, and the candle it completes of each. -/
structure OptTick where
  ltp : Rat
  ts : Stamp
  isCe1 : Bool
  isCe2 : Bool
  isPe1 : Bool
  isPe2 : Bool
  closed : Leg → Option StoredBar

/-- An index tick, and the candle of the future that it completes. -/
structure IdxTick where
  ltp : Rat
  ts : Stamp
  closed : Option StoredBar
  today : Int

inductive Handler where
  | optionTick (tick : OptTick)
  | indexTick (tick : IdxTick)
  | endOfDay (eodLtp : Rat)

/-- The tick as the exits read it. -/
def OptTick.exitTick (tick : OptTick) (trail : TrapExit.Trail) : TrapExit.OptionTick :=
  ⟨⟨tick.ltp, trail⟩, tick.isCe1, tick.isCe2, tick.isPe1, tick.isPe2⟩

def OptTick.tracks (tick : OptTick) (leg : Leg) : Bool := (tick.exitTick .kept).tracks leg

@[simp] theorem exitTick_tracks (tick : OptTick) (trail : TrapExit.Trail) (leg : Leg) :
    (tick.exitTick trail).tracks leg = tick.tracks leg := by
  cases leg <;> rfl

/-- The candles of the legs that the tick matches. -/
def OptTick.store (tick : OptTick) (bars : Leg → List StoredBar) (leg : Leg) : List StoredBar :=
  match tick.closed leg with
  | some bar => if tick.tracks leg then keepBar (bars leg) bar else bars leg
  | none => bars leg

/-- What a handler leaves: the book, its suspended exit, and whether it has raised. -/
structure Outcome where
  book : Book
  task : Option Task
  raised : Bool := false

/-- The loop after a handler. -/
def Outcome.loop (outcome : Outcome) : Loop :=
  if outcome.task.isSome then .waiting else if outcome.raised then .ended else .running

/-- A handler where it belongs; the end of the day is in no loop. -/
def Outcome.within (outcome : Outcome) (origin : Origin) : Book × Option Sale :=
  let book := match origin with
    | .option _ => { outcome.book with optLoop := outcome.loop }
    | .index _ => { outcome.book with idxLoop := outcome.loop }
    | .endOfDay => outcome.book
  (book, outcome.task.map (fun task => ⟨task, origin⟩))

def Book.withEngine (book : Book) (done : Engine × Option Task) (raised : Bool) : Outcome :=
  ⟨{ book with engine := done.1 }, done.2, raised⟩

/-- The exit with another outcome of the trailing stop, for a T1 that goes on with it. -/
def retrail (trail : TrapExit.Trail) (exit : Exit) : Exit :=
  match exit.after with
  | .tickT1 tick => { exit with after := .tickT1 { tick with trail := trail } }
  | .optionT1 | .close => exit

def retrailTask (trail : TrapExit.Trail) : Task → Task
  | .login exit => .login (retrail trail exit)
  | .placing exit request => .placing (retrail trail exit) request

/-- `_place_exit` returns to its caller. -/
def returns : Task → Answer → Bool
  | .login _, .broker ready => !ready
  | .placing _ _, .placed _ => true
  | .placing _ _, .raised => true
  | _, _ => false

/-- The caller goes on with a tick. -/
def goesOn (task : Task) : Bool :=
  match task.exit.after with
  | .tickT1 _ => true
  | .optionT1 | .close => false

/-- `pos["strike"]` of a position that was cleared during the login. -/
def readsCleared (engine : Engine) : Task → Answer → Bool
  | .login _, .broker ready => ready && !engine.isOpen
  | _, _ => false

section Handlers

variable (frames : Frames) (setup : Setup) (slBuf : Rat)

/-- `_update_trail_sl` with the bars of the leg. -/
def trailOn (book : Book) (pos : Position) (ts : Stamp) : Trailed :=
  updateTrailSl frames (trailSetup setup slBuf) pos (book.bars pos.leg) book.marks ts

/-- The T1 part of `_check_tick_exit`. -/
def ReachesT1 (pos : Position) (ltp : Rat) : Prop :=
  pos.t1Hit = false ∧ setup.noTargetTsl = false ∧ pos.t1Price ≤ ltp ∧ setup.htfSource ≠ .futures

instance (pos : Position) (ltp : Rat) : Decidable (ReachesT1 setup pos ltp) :=
  inferInstanceAs (Decidable (_ ∧ _ ∧ _ ∧ _))

/-- The position that a tick trails, where it does: T1 has moved its stop before. -/
def trailedPos (pos : Position) (ltp : Rat) : Position :=
  if ReachesT1 setup pos ltp then { pos with trailSl := pos.spotAtEntry } else pos

/-- `_check_tick_exit` gets to the trailing stop without an await: after an earlier T1,
or one with nothing to sell. -/
def TrailsAtOnce (pos : Position) (ltp : Rat) : Prop :=
  setup.noTargetTsl = false ∧
    (pos.t1Hit = true ∨ ReachesT1 setup pos ltp ∧ pos.t1Qty ≤ 0)

instance (pos : Position) (ltp : Rat) : Decidable (TrailsAtOnce setup pos ltp) :=
  inferInstanceAs (Decidable (_ ∧ (_ ∨ _ ∧ _)))

/-- The position part of a loop, by what the exits do with an outcome of the trailing
stop. -/
def handleTick (book : Book) (ltp : Rat) (ts : Stamp) (checks : Bool)
    (exits : TrapExit.Trail → Engine × Option Task) : Outcome :=
  if checks ∧ TrailsAtOnce setup book.engine.pos ltp then
    let trailed := trailOn frames setup slBuf book (trailedPos setup book.engine.pos ltp) ts
    let done := exits (trailOutcome trailed)
    ⟨{ book with engine := done.1, marks := trailed.marks }, done.2, trailed.error.isSome⟩
  else
    -- A T1 that has to wait gets to its trailing stop afterwards.
    book.withEngine (exits .kept) false

/-- A round of `_opt_tick_loop`. -/
def optionTick (book : Book) (tick : OptTick) : Book × Option Sale :=
  if book.optLoop = .running then
    let stored := { book with bars := tick.store book.bars }
    let checks := stored.engine.isOpen && tick.tracks stored.engine.pos.leg
    (handleTick frames setup slBuf stored tick.ltp tick.ts checks
      (fun trail => TrapExit.optTick setup stored.engine (tick.exitTick trail))).within
        (.option tick.ts)
  else (book, none)

/-- The candle that a tick completes, in a futures book. -/
def storeCandle (book : Book) (tick : IdxTick) : Book :=
  match tick.closed with
  | some bar =>
      if setup.htfSource = .futures then
        let bars := keepBar (book.bars .fut) bar
        let trailSl :=
          updateFuturesTsl frames (trailSetup setup slBuf) book.engine.pos bars tick.today
        { book with
          bars := Function.update book.bars .fut bars
          engine := TrapExit.moveStop book.engine trailSl }
      else book
  | none => book

/-- A round of `_idx_tick_loop`. -/
def indexTick (book : Book) (tick : IdxTick) : Book × Option Sale :=
  if book.idxLoop = .running then
    let stored := storeCandle frames setup slBuf book tick
    let checks := decide (setup.htfSource = .futures) && stored.engine.isOpen &&
      decide (stored.engine.pos.leg = .fut)
    (handleTick frames setup slBuf stored tick.ltp tick.ts checks
      (fun trail => TrapExit.idxTick setup stored.engine ⟨tick.ltp, trail⟩)).within
        (.index tick.ts)
  else (book, none)

/-- `_eod_square_off`, outside both loops. -/
def endOfDay (book : Book) (eodLtp : Rat) : Book × Option Sale :=
  (book.withEngine (TrapExit.eodSquareOff book.engine eodLtp) false).within .endOfDay

def startHandler (book : Book) : Handler → Book × Option Sale
  | .optionTick tick => optionTick frames setup slBuf book tick
  | .indexTick tick => indexTick frames setup slBuf book tick
  | .endOfDay eodLtp => endOfDay book eodLtp

/-- The answer lets a T1 go on to the trailing stop. -/
def TrailsOn (engine : Engine) (task : Task) (answer : Answer) : Prop :=
  returns task answer = true ∧ goesOn task = true ∧
    setup.noTargetTsl = false ∧ engine.pos.t1Hit = true

instance (engine : Engine) (task : Task) (answer : Answer) :
    Decidable (TrailsOn setup engine task answer) := inferInstanceAs (Decidable (_ ∧ _ ∧ _ ∧ _))

/-- A suspended exit of a tick with the answer it waits for. -/
def resumeTick (book : Book) (task : Task) (ts : Stamp) (answer : Answer) : Outcome :=
  if TrailsOn setup book.engine task answer then
    let trailed := trailOn frames setup slBuf book book.engine.pos ts
    let done :=
      TrapExit.resumeExit setup book.engine (retrailTask (trailOutcome trailed) task) answer
    ⟨{ book with engine := done.1, marks := trailed.marks }, done.2, trailed.error.isSome⟩
  else
    book.withEngine (TrapExit.resumeExit setup book.engine task answer)
      (readsCleared book.engine task answer)

def resumeSale (book : Book) (sale : Sale) (answer : Answer) : Book × Option Sale :=
  match sale.origin with
  | .option ts => (resumeTick frames setup slBuf book sale.task ts answer).within (.option ts)
  | .index ts => (resumeTick frames setup slBuf book sale.task ts answer).within (.index ts)
  | .endOfDay =>
      (book.withEngine (TrapExit.resumeExit setup book.engine sale.task answer) false).within
        .endOfDay

/-- The handlers of a book as tasks of the event loop. -/
def ticks : Tasks.Program Book Handler Sale Answer where
  start := startHandler frames setup slBuf
  resume := resumeSale frames setup slBuf

end Handlers

end OptionChain.TrapTicks
