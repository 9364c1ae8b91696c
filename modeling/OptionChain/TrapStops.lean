import OptionChain.TrapExit
import OptionChain.TrapTrail

/-!
# The stop of a futures position

The exits of a book with what moves its stop: the closed candles of the future, and
the marks of the trailing stop. `_idx_tick_loop` is not started again after an
error, so the book also says whether it still runs.
-/

namespace OptionChain.TrapStops

open Broker Timestamps TrapPosition TrapTrail
open TrapExit (Setup Engine Task Answer OptionTick)

structure Book where
  engine : Engine
  marks : TrailMarks
  barsFut : List StoredBar
  looping : Bool := true
deriving DecidableEq

inductive Handler where
  | candleClose (bar : StoredBar) (today : Int)
  | optionTick (tick : OptionTick)
  | indexTick (ltp : Rat) (ts : Stamp)
  | endOfDay (eodLtp : Rat)

/-- The last 2000 bars. -/
def keepBar (bars : List StoredBar) (bar : StoredBar) : List StoredBar :=
  (bars ++ [bar]).drop ((bars ++ [bar]).length - 2000)

def Book.withEngine (book : Book) (done : Engine × Option Task) : Book × Option Task :=
  ({ book with engine := done.1 }, done.2)

section Handlers

variable (frames : Frames) (setup : Setup) (slBuf : Rat)

def trailSetup : TrailSetup := ⟨setup.htfSource, slBuf⟩

/-- A candle of the future closes in the index loop. -/
def candleClose (book : Book) (bar : StoredBar) (today : Int) : Book :=
  if setup.htfSource = .futures ∧ book.looping then
    let bars := keepBar book.barsFut bar
    let trailSl :=
      updateFuturesTsl frames (trailSetup setup slBuf) book.engine.pos bars today
    { book with barsFut := bars, engine := TrapExit.moveStop book.engine trailSl }
  else book

/-- `_update_trail_sl` runs in every index tick of a position after T1. -/
def Trails (engine : Engine) : Prop :=
  engine.isOpen = true ∧ engine.pos.leg = .fut ∧ setup.noTargetTsl = false ∧
    engine.pos.t1Hit = true

instance (engine : Engine) : Decidable (Trails setup engine) :=
  inferInstanceAs (Decidable (_ ∧ _ ∧ _ ∧ _))

def trailOn (book : Book) (ts : Stamp) : Trailed :=
  updateTrailSl frames (trailSetup setup slBuf) book.engine.pos book.barsFut book.marks ts

def trailOutcome (trailed : Trailed) : TrapExit.Trail :=
  if trailed.error = none then .moved trailed.trailSl else .raised

/-- The position part of `_idx_tick_loop`. An error of the trailing stop ends the loop. -/
def indexTick (book : Book) (ltp : Rat) (ts : Stamp) : Book × Option Task :=
  if setup.htfSource = .futures ∧ book.looping then
    let trailed := trailOn frames setup slBuf book ts
    let ticked := TrapExit.idxTick setup book.engine ⟨ltp, trailOutcome trailed⟩
    if Trails setup book.engine then
      ({ book with
          engine := ticked.1
          marks := trailed.marks
          looping := decide (trailed.error = none) }, ticked.2)
    else book.withEngine ticked
  else (book, none)

def startHandler (book : Book) : Handler → Book × Option Task
  | .candleClose bar today => (candleClose frames setup slBuf book bar today, none)
  | .optionTick tick => book.withEngine (TrapExit.optTick setup book.engine tick)
  | .indexTick ltp ts => indexTick frames setup slBuf book ltp ts
  | .endOfDay eodLtp => book.withEngine (TrapExit.eodSquareOff book.engine eodLtp)

def resumeExit (book : Book) (task : Task) (answer : Answer) : Book × Option Task :=
  book.withEngine (TrapExit.resumeExit setup book.engine task answer)

/-- The handlers of a futures book as tasks of the event loop. -/
def stops : Tasks.Program Book Handler Task Answer where
  start := startHandler frames setup slBuf
  resume := resumeExit setup

end Handlers

end OptionChain.TrapStops
