import OptionChain.StopTightening
import OptionChain.TrapTicks

/-!
# A trap position across a restart

The position is written to a file as JSON and read back as it is. Numbers, flags and
texts come back, a timestamp comes back as its text. The marks of the trailing stop
hold one, so a book that has trailed its stop before the restart raises in the first
tick that trails it again. `restart_agrees_iff` says that this is all.
-/

namespace OptionChain.TrapRestart

open Broker Timestamps TrapPosition TrapTrail TrapTicks
open TrapStops (trailSetup trailOutcome)
open TrapExit (Setup Engine Task Answer Exit SweepWatch)

/-! ## The position file -/

/-- `last_5m_ts` in the file. -/
inductive SavedMark where
  | null
  | text
deriving DecidableEq

/-- The JSON object of a position. The entry of a position is a text before and after. -/
structure PositionFile where
  pos : Position
  entryTs : Stamp
  last5m : SavedMark
  trailTraps : List TrailTrap
deriving DecidableEq

/-- The encoder writes a timestamp as its ISO text. -/
def saveMark : LastMark → SavedMark
  | .unset => .null
  | .stamp _ => .text
  | .text => .text

def loadMark : SavedMark → LastMark
  | .null => .unset
  | .text => .text

/-- `_persist_position`. Without a position the file holds `null`. -/
def persistPosition (book : Book) : Option PositionFile :=
  if book.engine.isOpen then
    some ⟨book.engine.pos, book.marks.entryTs, saveMark book.marks.last5m, book.marks.trailTraps⟩
  else none

/-- The calendar date of a reading. -/
def dateOf (stamp : Stamp) : Int := stamp.wall / 86400000000

/-- `_load_persisted_position`: a position of another date is discarded. -/
def loadPersistedPosition (today : Int) : Option PositionFile → Option (Position × TrailMarks)
  | none => none
  | some file =>
      if dateOf file.entryTs ≠ today then none
      else some (file.pos, ⟨file.entryTs, loadMark file.last5m, file.trailTraps⟩)

/-- A new process with the bars of the old one. What the old one sold and recorded is
kept elsewhere; its loops and its sweep watch are gone. -/
def restart (today : Int) (book : Book) : Book :=
  match loadPersistedPosition today (persistPosition book) with
  | some (pos, marks) =>
      { engine := { book.engine with pos := pos, isOpen := true, sweepWatch := none }
        marks := marks
        bars := book.bars }
  | none =>
      { engine := { book.engine with isOpen := false, sweepWatch := none }
        marks := book.marks
        bars := book.bars }

/-! ## Exits do not read the sweep watch -/

section Exits

variable {setup : Setup} {engine : Engine} {watch : Option SweepWatch}

/-- The engine with another sweep watch. -/
def watching (engine : Engine) (watch : Option SweepWatch) : Engine :=
  { engine with sweepWatch := watch }

/-- Two handlers end alike but for the sweep watch. -/
def Same (done other : Engine × Option Task) : Prop :=
  other.2 = done.2 ∧ ∃ watch, other.1 = watching done.1 watch

theorem same_watching (done : Engine × Option Task) (watch : Option SweepWatch) :
    Same done (watching done.1 watch, done.2) := ⟨rfl, watch, rfl⟩

theorem same_ite {p : Prop} [Decidable p] {done other : Engine × Option Task}
    {done' other' : Engine × Option Task} (first : Same done other) (second : Same done' other') :
    Same (if p then done else done') (if p then other else other') := by
  by_cases holds : p
  · rwa [if_pos holds, if_pos holds]
  · rwa [if_neg holds, if_neg holds]

theorem beginClose_same (exit : Exit) :
    Same (TrapExit.beginClose engine exit) (TrapExit.beginClose (watching engine watch) exit) :=
  @same_ite (TrapExit.returnsAtOnce engine exit = true) _ _ _ _ _ ⟨rfl, _, rfl⟩
    (same_watching (engine, _) watch)

theorem checkStops_same (ltp : Rat) :
    Same (TrapExit.checkStops setup engine ltp)
      (TrapExit.checkStops setup (watching engine watch) ltp) := by
  let locked : Engine := { engine with pos := TrapExit.lockFloor setup engine.pos ltp }
  refine @same_ite (TrapExit.floorBroken setup locked.pos ltp = true) _ _ _ _ _ ?_ ?_
  · exact @beginClose_same locked watch _
  · refine @same_ite (TrapExit.slHit setup locked.pos ltp = true) _ _ _ _ _ ?_ ?_
    · exact @beginClose_same locked watch _
    · exact same_watching (locked, none) watch

theorem settleTick_same (tick : TrapExit.Tick) :
    Same (TrapExit.settleTick setup engine tick)
      (TrapExit.settleTick setup (watching engine watch) tick) := by
  rw [TrapExit.settleTick, TrapExit.settleTick]
  refine @same_ite ((!setup.noTargetTsl && engine.pos.t1Hit) = true) _ _ _ _ _ ?_ ?_
  · cases tick.trail with
    | kept => exact checkStops_same tick.ltp
    | moved trailSl =>
      let moved : Engine := { engine with pos := { engine.pos with trailSl := trailSl } }
      exact @checkStops_same setup moved watch tick.ltp
    | raised => exact same_watching (engine, none) watch
  · exact checkStops_same tick.ltp

theorem halfDone_same (exit : Exit) (orderId : Option String) :
    Same (TrapExit.halfDone setup engine exit orderId)
      (TrapExit.halfDone setup (watching engine watch) exit orderId) := by
  let recorded := TrapExit.recordHalf engine exit orderId
  rw [TrapExit.halfDone, TrapExit.halfDone]
  cases exit.after with
  | optionT1 => exact same_watching (recorded, none) watch
  | tickT1 tick => exact @settleTick_same setup recorded watch tick
  | close => exact same_watching (recorded, none) watch

theorem beginHalf_same (exit : Exit) :
    Same (TrapExit.beginHalf setup engine exit)
      (TrapExit.beginHalf setup (watching engine watch) exit) :=
  @same_ite (TrapExit.returnsAtOnce engine exit = true) _ _ _ _ _ (halfDone_same exit none)
    (same_watching (engine, _) watch)

theorem checkOptionT1_same (optLtp : Rat) :
    Same (TrapExit.checkOptionT1 setup engine optLtp)
      (TrapExit.checkOptionT1 setup (watching engine watch) optLtp) := by
  rw [TrapExit.checkOptionT1, TrapExit.checkOptionT1]
  by_cases whole : engine.pos.t1Hit = false
  · rw [dif_pos whole, dif_pos (show (watching engine watch).pos.t1Hit = false from whole)]
    let taken : Engine := { engine with pos := engine.pos.takeT1 whole }
    exact same_ite (@beginHalf_same setup taken watch _) (same_watching (engine, none) watch)
  · rw [dif_neg whole, dif_neg (show ¬(watching engine watch).pos.t1Hit = false from whole)]
    exact same_watching (engine, none) watch

theorem checkTickExit_same (tick : TrapExit.Tick) :
    Same (TrapExit.checkTickExit setup engine tick)
      (TrapExit.checkTickExit setup (watching engine watch) tick) := by
  rw [TrapExit.checkTickExit, TrapExit.checkTickExit]
  by_cases whole : engine.pos.t1Hit = false
  · rw [dif_pos whole, dif_pos (show (watching engine watch).pos.t1Hit = false from whole)]
    let realised := (tick.ltp - engine.pos.entryPrice) * engine.pos.t1Qty
    let taken : Engine :=
      { engine with pos := { engine.pos.takeT1 whole with t1RealisedPnl := realised } }
    exact same_ite (@beginHalf_same setup taken watch _) (settleTick_same tick)
  · rw [dif_neg whole, dif_neg (show ¬(watching engine watch).pos.t1Hit = false from whole)]
    exact settleTick_same tick

theorem optTick_same (tick : TrapExit.OptionTick) :
    Same (TrapExit.optTick setup engine tick)
      (TrapExit.optTick setup (watching engine watch) tick) := by
  have still : Same (engine, none) (watching engine watch, none) :=
    same_watching (engine, none) watch
  exact same_ite
    (same_ite (checkTickExit_same tick.toTick) (same_ite (checkOptionT1_same tick.ltp) still)) still

theorem idxTick_same (tick : TrapExit.Tick) :
    Same (TrapExit.idxTick setup engine tick)
      (TrapExit.idxTick setup (watching engine watch) tick) :=
  same_ite (checkTickExit_same tick) (same_watching (engine, none) watch)

theorem eodSquareOff_same (eodLtp : Rat) :
    Same (TrapExit.eodSquareOff engine eodLtp)
      (TrapExit.eodSquareOff (watching engine watch) eodLtp) :=
  same_ite (beginClose_same _) ⟨rfl, watch, rfl⟩

theorem returned_same (exit : Exit) (orderId : Option String) :
    Same (TrapExit.returned setup engine exit orderId)
      (TrapExit.returned setup (watching engine watch) exit orderId) := by
  rw [TrapExit.returned, TrapExit.returned]
  cases exit.after with
  | optionT1 => exact halfDone_same exit orderId
  | tickT1 tick => exact halfDone_same exit orderId
  | close => exact ⟨rfl, _, rfl⟩

theorem resumeExit_same (task : Task) (answer : Answer) :
    Same (TrapExit.resumeExit setup engine task answer)
      (TrapExit.resumeExit setup (watching engine watch) task answer) := by
  cases task with
  | login exit =>
    cases answer with
    | broker ready =>
      cases ready with
      | false => exact returned_same exit none
      | true => exact same_ite (same_watching (engine, _) watch) (same_watching (engine, none) watch)
    | placed orderId => exact same_watching (engine, _) watch
    | raised => exact same_watching (engine, _) watch
  | placing exit request =>
    cases answer with
    | broker ready => exact same_watching (engine, _) watch
    | placed orderId =>
      let sold : Engine := { engine with accepted := engine.accepted ++ [request] }
      exact @returned_same setup sold watch exit (some orderId)
    | raised => exact returned_same exit none

theorem moveStop_same (trailSl : Rat) :
    TrapExit.moveStop (watching engine watch) trailSl =
      watching (TrapExit.moveStop engine trailSl) watch := by
  by_cases moves : engine.isOpen = true ∧ engine.pos.t1Hit = false
  · rw [TrapExit.moveStop, TrapExit.moveStop, if_pos moves]
    exact if_pos moves
  · rw [TrapExit.moveStop, TrapExit.moveStop, if_neg moves]
    exact if_neg moves

end Exits

/-! ## Two books side by side -/

/-- The books differ in their marks and their sweep watch at most. -/
structure Alike (book other : Book) : Prop where
  engine : ∃ watch, other.engine = watching book.engine watch
  bars : other.bars = book.bars
  optLoop : other.optLoop = book.optLoop
  idxLoop : other.idxLoop = book.idxLoop

/-- Two handlers that end alike. Their marks stay the same if they were, and stay as
they were unless the stop is trailed. -/
structure Together (trails : Prop) (marks others : TrailMarks) (outcome other : Outcome) :
    Prop where
  alike : Alike outcome.book other.book
  task : other.task = outcome.task
  raised : other.raised = outcome.raised
  same : others = marks → other.book.marks = outcome.book.marks
  kept : ¬trails → other.book.marks = others

section Books

variable (frames : Frames) (setup : Setup) (slBuf : Rat)

/-- The event gets to the trailing stop. -/
def Trails (system : Tasks.System Book Sale) : Tasks.Event Handler Answer → Prop
  | .start (.optionTick tick) =>
      system.shared.optLoop = .running ∧ system.shared.engine.isOpen = true ∧
        tick.tracks system.shared.engine.pos.leg = true ∧
          TrailsAtOnce setup system.shared.engine.pos tick.ltp
  | .start (.indexTick tick) =>
      system.shared.idxLoop = .running ∧ setup.htfSource = .futures ∧
        system.shared.engine.isOpen = true ∧ system.shared.engine.pos.leg = .fut ∧
          TrailsAtOnce setup system.shared.engine.pos tick.ltp
  | .start (.endOfDay _) => False
  | .resume index answer => ∃ sale ∈ system.tasks[index]?,
      sale.origin ≠ .endOfDay ∧ TrailsOn setup system.shared.engine sale.task answer

section Handle

variable {book other : Book} {trails : Prop}

/-- A handler that ends alike in both engines and leaves the marks. -/
theorem together_withEngine (alike : Alike book other) {done done' : Engine × Option Task}
    (same : Same done done') (raised : Bool) :
    Together trails book.marks other.marks (book.withEngine done raised)
      (other.withEngine done' raised) :=
  ⟨⟨same.2, alike.bars, alike.optLoop, alike.idxLoop⟩, same.1, rfl, id, fun _ => rfl⟩

theorem trailOn_alike (alike : Alike book other) (same : other.marks = book.marks)
    (pos : Position) (ts : Stamp) :
    trailOn frames setup slBuf other pos ts = trailOn frames setup slBuf book pos ts := by
  rw [trailOn, trailOn, alike.bars, same]

theorem handleTick_together (alike : Alike book other) (ltp : Rat) (ts : Stamp) (checks : Bool)
    {exits exits' : TrapExit.Trail → Engine × Option Task}
    (same : ∀ trail, Same (exits trail) (exits' trail))
    (clear : other.marks = book.marks ∨
      ¬(checks = true ∧ TrailsAtOnce setup book.engine.pos ltp)) :
    Together (checks = true ∧ TrailsAtOnce setup book.engine.pos ltp) book.marks other.marks
      (handleTick frames setup slBuf book ltp ts checks exits)
      (handleTick frames setup slBuf other ltp ts checks exits') := by
  obtain ⟨watch, engine⟩ := alike.engine
  have pos : other.engine.pos = book.engine.pos := by rw [engine]; rfl
  by_cases trailing : checks = true ∧ TrailsAtOnce setup book.engine.pos ltp
  · have marks := clear.resolve_right (not_not_intro trailing)
    rw [handleTick, handleTick, pos, if_pos trailing, if_pos trailing,
      trailOn_alike frames setup slBuf alike marks]
    exact ⟨⟨(same _).2, alike.bars, alike.optLoop, alike.idxLoop⟩, (same _).1, rfl,
      fun _ => rfl, fun untrailed => absurd trailing untrailed⟩
  · rw [handleTick, handleTick, pos, if_neg trailing, if_neg trailing]
    exact together_withEngine alike (same .kept) false

theorem resumeTick_together (alike : Alike book other) (task : Task) (ts : Stamp)
    (answer : Answer) (clear : other.marks = book.marks ∨ ¬TrailsOn setup book.engine task answer) :
    Together (TrailsOn setup book.engine task answer) book.marks other.marks
      (resumeTick frames setup slBuf book task ts answer)
      (resumeTick frames setup slBuf other task ts answer) := by
  obtain ⟨watch, engine⟩ := alike.engine
  have on : TrailsOn setup other.engine task answer = TrailsOn setup book.engine task answer := by
    rw [engine]
    rfl
  by_cases trailing : TrailsOn setup book.engine task answer
  · have marks := clear.resolve_right (not_not_intro trailing)
    have done := @resumeExit_same setup book.engine watch
      (retrailTask (trailOutcome (trailOn frames setup slBuf book book.engine.pos ts)) task) answer
    rw [resumeTick, resumeTick, if_pos trailing, if_pos (on ▸ trailing),
      trailOn_alike frames setup slBuf alike marks, engine]
    exact ⟨⟨done.2, alike.bars, alike.optLoop, alike.idxLoop⟩, done.1, rfl,
      fun _ => rfl, fun untrailed => absurd trailing untrailed⟩
  · have reads : readsCleared other.engine task answer = readsCleared book.engine task answer := by
      rw [engine]
      rfl
    rw [resumeTick, resumeTick, if_neg trailing, if_neg (on ▸ trailing), reads, engine]
    exact together_withEngine alike (resumeExit_same task answer) _

/-- The candle of the future moves the stop at most. -/
theorem storeCandle_engine (book : Book) (tick : IdxTick) :
    ∃ stop, (storeCandle frames setup slBuf book tick).engine =
      { book.engine with pos := { book.engine.pos with trailSl := stop } } := by
  have still : ∃ stop, book.engine =
      { book.engine with pos := { book.engine.pos with trailSl := stop } } := ⟨_, rfl⟩
  rw [storeCandle]
  cases tick.closed with
  | none => exact still
  | some bar =>
    by_cases futures : setup.htfSource = .futures
    · simp only [futures, if_true, TrapExit.moveStop]
      split
      · exact ⟨_, rfl⟩
      · exact still
    · simpa only [if_neg futures] using still

theorem storeCandle_alike (alike : Alike book other) (tick : IdxTick) :
    Alike (storeCandle frames setup slBuf book tick)
      (storeCandle frames setup slBuf other tick) := by
  obtain ⟨watch, engine⟩ := alike.engine
  rw [storeCandle, storeCandle]
  cases tick.closed with
  | none => exact alike
  | some bar =>
    by_cases futures : setup.htfSource = .futures
    · simp only [futures, if_true, alike.bars, engine]
      exact ⟨⟨watch, moveStop_same _⟩, rfl, alike.optLoop, alike.idxLoop⟩
    · simpa only [if_neg futures] using alike

theorem storeCandle_marks (book : Book) (tick : IdxTick) :
    (storeCandle frames setup slBuf book tick).marks = book.marks := by
  rw [storeCandle]
  cases tick.closed with
  | none => rfl
  | some bar =>
    by_cases futures : setup.htfSource = .futures
    · simp only [if_pos futures]
    · simp only [if_neg futures]

/-- Two handlers end alike with the sale that they leave. -/
structure Handled (trails : Prop) (marks others : TrailMarks) (done done' : Book × Option Sale) :
    Prop where
  alike : Alike done.1 done'.1
  sale : done'.2 = done.2
  same : others = marks → done'.1.marks = done.1.marks
  kept : ¬trails → done'.1.marks = others

theorem within_handled {marks others : TrailMarks} {outcome outcome' : Outcome}
    (together : Together trails marks others outcome outcome') (origin : Origin) :
    Handled trails marks others (outcome.within origin) (outcome'.within origin) := by
  obtain ⟨alike, task, raised, same, kept⟩ := together
  have loop : outcome'.loop = outcome.loop := by rw [Outcome.loop, Outcome.loop, task, raised]
  have sale : (outcome'.within origin).2 = (outcome.within origin).2 :=
    congrArg (Option.map (fun task => (⟨task, origin⟩ : Sale))) task
  cases origin with
  | option ts => exact ⟨⟨alike.engine, alike.bars, loop, alike.idxLoop⟩, sale, same, kept⟩
  | index ts => exact ⟨⟨alike.engine, alike.bars, alike.optLoop, loop⟩, sale, same, kept⟩
  | endOfDay => exact ⟨alike, sale, same, kept⟩

theorem handled_still (alike : Alike book other) :
    Handled trails book.marks other.marks (book, none) (other, none) :=
  ⟨alike, rfl, id, fun _ => rfl⟩

theorem Handled.congr {trails' : Prop} {marks others : TrailMarks} {done done' : Book × Option Sale}
    (handled : Handled trails marks others done done') (iff : trails ↔ trails') :
    Handled trails' marks others done done' :=
  ⟨handled.alike, handled.sale, handled.same, fun untrailed =>
    handled.kept (fun trailing => untrailed (iff.mp trailing))⟩

/-- A round of the option loop. -/
theorem optionTick_handled (alike : Alike book other) (tasks : List Sale) (tick : OptTick)
    (clear : other.marks = book.marks ∨
      ¬Trails setup ⟨book, tasks⟩ (.start (.optionTick tick))) :
    Handled (Trails setup ⟨book, tasks⟩ (.start (.optionTick tick))) book.marks other.marks
      (optionTick frames setup slBuf book tick) (optionTick frames setup slBuf other tick) := by
  by_cases running : book.optLoop = .running
  · obtain ⟨watch, engine⟩ := alike.engine
    let stored : Book := { book with bars := tick.store book.bars }
    let stored' : Book := { other with bars := tick.store other.bars }
    let checks := stored.engine.isOpen && tick.tracks stored.engine.pos.leg
    have both : Alike stored stored' :=
      ⟨alike.engine, congrArg tick.store alike.bars, alike.optLoop, alike.idxLoop⟩
    have iff : (checks = true ∧ TrailsAtOnce setup book.engine.pos tick.ltp) ↔
        Trails setup ⟨book, tasks⟩ (.start (.optionTick tick)) := by
      simp [checks, stored, Trails, running, and_assoc]
    have checks' : (stored'.engine.isOpen && tick.tracks stored'.engine.pos.leg) = checks := by
      simp only [stored', engine, watching, checks, stored]
    have ticked := @handleTick_together frames setup slBuf stored stored' both tick.ltp tick.ts
      checks (fun trail => TrapExit.optTick setup stored.engine (tick.exitTick trail))
      (fun trail => TrapExit.optTick setup stored'.engine (tick.exitTick trail))
      (fun trail => by simp only [stored', stored, engine]; exact optTick_same _) (by rwa [iff])
    have round' : optionTick frames setup slBuf other tick =
        (handleTick frames setup slBuf stored' tick.ltp tick.ts checks
          (fun trail => TrapExit.optTick setup stored'.engine (tick.exitTick trail))).within
            (.option tick.ts) := by
      rw [← checks']
      exact if_pos (alike.optLoop.trans running)
    rw [optionTick, if_pos running, round']
    exact (within_handled ticked (.option tick.ts)).congr iff
  · have idle : optionTick frames setup slBuf book tick = (book, none) := if_neg running
    have idle' : optionTick frames setup slBuf other tick = (other, none) :=
      if_neg (alike.optLoop ▸ running)
    rw [idle, idle']
    exact handled_still alike

/-- A round of the index loop. -/
theorem indexTick_handled (alike : Alike book other) (tasks : List Sale) (tick : IdxTick)
    (clear : other.marks = book.marks ∨
      ¬Trails setup ⟨book, tasks⟩ (.start (.indexTick tick))) :
    Handled (Trails setup ⟨book, tasks⟩ (.start (.indexTick tick))) book.marks other.marks
      (indexTick frames setup slBuf book tick) (indexTick frames setup slBuf other tick) := by
  by_cases running : book.idxLoop = .running
  · let stored := storeCandle frames setup slBuf book tick
    let stored' := storeCandle frames setup slBuf other tick
    let checks := decide (setup.htfSource = .futures) && stored.engine.isOpen &&
      decide (stored.engine.pos.leg = .fut)
    have both : Alike stored stored' := storeCandle_alike frames setup slBuf alike tick
    obtain ⟨watch, engine⟩ := both.engine
    have iff : (checks = true ∧ TrailsAtOnce setup stored.engine.pos tick.ltp) ↔
        Trails setup ⟨book, tasks⟩ (.start (.indexTick tick)) := by
      obtain ⟨stop, moved⟩ := storeCandle_engine frames setup slBuf book tick
      simp only [checks, stored, moved, Trails, running, TrailsAtOnce, ReachesT1,
        Bool.and_eq_true, decide_eq_true_eq, and_assoc, true_and]
    have checks' : (decide (setup.htfSource = .futures) && stored'.engine.isOpen &&
        decide (stored'.engine.pos.leg = .fut)) = checks := by
      rw [engine]
      rfl
    have marks : stored.marks = book.marks := storeCandle_marks frames setup slBuf book tick
    have marks' : stored'.marks = other.marks := storeCandle_marks frames setup slBuf other tick
    have ticked := @handleTick_together frames setup slBuf stored stored' both tick.ltp tick.ts
      checks (fun trail => TrapExit.idxTick setup stored.engine ⟨tick.ltp, trail⟩)
      (fun trail => TrapExit.idxTick setup stored'.engine ⟨tick.ltp, trail⟩)
      (fun trail => by rw [engine]; exact idxTick_same _) (by rwa [iff, marks, marks'])
    have round' : indexTick frames setup slBuf other tick =
        (handleTick frames setup slBuf stored' tick.ltp tick.ts checks
          (fun trail => TrapExit.idxTick setup stored'.engine ⟨tick.ltp, trail⟩)).within
            (.index tick.ts) := by
      rw [← checks']
      exact if_pos (alike.idxLoop.trans running)
    rw [indexTick, if_pos running, round', ← marks, ← marks']
    exact (within_handled ticked (.index tick.ts)).congr iff
  · have idle : indexTick frames setup slBuf book tick = (book, none) := if_neg running
    have idle' : indexTick frames setup slBuf other tick = (other, none) :=
      if_neg (alike.idxLoop ▸ running)
    rw [idle, idle']
    exact handled_still alike

theorem startHandler_handled (alike : Alike book other) (tasks : List Sale) (handler : Handler)
    (clear : other.marks = book.marks ∨ ¬Trails setup ⟨book, tasks⟩ (.start handler)) :
    Handled (Trails setup ⟨book, tasks⟩ (.start handler)) book.marks other.marks
      (startHandler frames setup slBuf book handler)
      (startHandler frames setup slBuf other handler) := by
  cases handler with
  | optionTick tick => exact optionTick_handled frames setup slBuf alike tasks tick clear
  | indexTick tick => exact indexTick_handled frames setup slBuf alike tasks tick clear
  | endOfDay eodLtp =>
    obtain ⟨watch, engine⟩ := alike.engine
    have done : Same (TrapExit.eodSquareOff book.engine eodLtp)
        (TrapExit.eodSquareOff other.engine eodLtp) := by
      rw [engine]
      exact eodSquareOff_same eodLtp
    exact within_handled (together_withEngine alike done false) .endOfDay

theorem resumeSale_handled (alike : Alike book other) (sale : Sale) (answer : Answer)
    (clear : other.marks = book.marks ∨
      ¬(sale.origin ≠ .endOfDay ∧ TrailsOn setup book.engine sale.task answer)) :
    Handled (sale.origin ≠ .endOfDay ∧ TrailsOn setup book.engine sale.task answer)
      book.marks other.marks (resumeSale frames setup slBuf book sale answer)
      (resumeSale frames setup slBuf other sale answer) := by
  obtain ⟨task, origin⟩ := sale
  cases origin with
  | option ts =>
    have inLoop : (Origin.option ts ≠ .endOfDay ∧ TrailsOn setup book.engine task answer) ↔
        TrailsOn setup book.engine task answer := by simp
    rw [inLoop] at clear
    have resumed := resumeTick_together frames setup slBuf alike task ts answer clear
    exact (within_handled resumed (.option ts)).congr inLoop.symm
  | index ts =>
    have inLoop : (Origin.index ts ≠ .endOfDay ∧ TrailsOn setup book.engine task answer) ↔
        TrailsOn setup book.engine task answer := by simp
    rw [inLoop] at clear
    have resumed := resumeTick_together frames setup slBuf alike task ts answer clear
    exact (within_handled resumed (.index ts)).congr inLoop.symm
  | endOfDay =>
    obtain ⟨watch, engine⟩ := alike.engine
    have done : Same (TrapExit.resumeExit setup book.engine task answer)
        (TrapExit.resumeExit setup other.engine task answer) := by
      rw [engine]
      exact resumeExit_same task answer
    exact within_handled (together_withEngine alike done false) .endOfDay

/-! ## Marks of a book that was not restarted -/

/-- The trailing stop writes timestamps only. -/
theorem updateTrailSl_typed (trailing : TrailSetup) (pos : Position) (bars : List StoredBar)
    {marks : TrailMarks} (typed : marks.last5m ≠ .text) (ts : Stamp) :
    (updateTrailSl frames trailing pos bars marks ts).marks.last5m ≠ .text := by
  obtain same | ⟨at5m, stamped⟩ :=
    (@StopTightening.updateTrailSl_marked frames trailing pos bars marks ts).last5m
  · rwa [same]
  · simp [stamped]

theorem handleTick_typed (typed : book.marks.last5m ≠ .text) (ltp : Rat) (ts : Stamp)
    (checks : Bool) (exits : TrapExit.Trail → Engine × Option Task) :
    (handleTick frames setup slBuf book ltp ts checks exits).book.marks.last5m ≠ .text := by
  by_cases trailing : checks = true ∧ TrailsAtOnce setup book.engine.pos ltp
  · rw [handleTick, if_pos trailing]
    exact updateTrailSl_typed _ _ _ _ typed ts
  · rw [handleTick, if_neg trailing]
    exact typed

theorem resumeTick_typed (typed : book.marks.last5m ≠ .text) (task : Task) (ts : Stamp)
    (answer : Answer) :
    (resumeTick frames setup slBuf book task ts answer).book.marks.last5m ≠ .text := by
  by_cases trailing : TrailsOn setup book.engine task answer
  · rw [resumeTick, if_pos trailing]
    exact updateTrailSl_typed _ _ _ _ typed ts
  · rw [resumeTick, if_neg trailing]
    exact typed

theorem within_marks (outcome : Outcome) (origin : Origin) :
    (outcome.within origin).1.marks = outcome.book.marks := by
  cases origin <;> rfl

theorem startHandler_typed (typed : book.marks.last5m ≠ .text) (handler : Handler) :
    (startHandler frames setup slBuf book handler).1.marks.last5m ≠ .text := by
  cases handler with
  | optionTick tick =>
    rw [startHandler, optionTick]
    split
    · rw [within_marks]
      apply handleTick_typed
      exact typed
    · exact typed
  | indexTick tick =>
    rw [startHandler, indexTick]
    split
    · rw [within_marks]
      apply handleTick_typed
      rwa [storeCandle_marks]
    · exact typed
  | endOfDay eodLtp =>
    rw [startHandler, endOfDay, within_marks]
    exact typed

theorem resumeSale_typed (typed : book.marks.last5m ≠ .text) (sale : Sale) (answer : Answer) :
    (resumeSale frames setup slBuf book sale answer).1.marks.last5m ≠ .text := by
  obtain ⟨task, origin⟩ := sale
  cases origin with
  | option ts => exact resumeTick_typed frames setup slBuf typed task ts answer
  | index ts => exact resumeTick_typed frames setup slBuf typed task ts answer
  | endOfDay => exact typed

end Handle

/-! ## Runs side by side -/

/-- Both books handle one event. -/
def bothStep (systems : Tasks.System Book Sale × Tasks.System Book Sale)
    (event : Tasks.Event Handler Answer) : Tasks.System Book Sale × Tasks.System Book Sale :=
  (Tasks.step (ticks frames setup slBuf) systems.1 event,
    Tasks.step (ticks frames setup slBuf) systems.2 event)

/-- The event is handled alike: the same exits with their quantities, prices and ticks, the
same stop, and no comparison with a text in the second book. -/
structure Agrees (systems : Tasks.System Book Sale × Tasks.System Book Sale)
    (event : Tasks.Event Handler Answer) : Prop where
  tasks : (bothStep frames setup slBuf systems event).2.tasks =
    (bothStep frames setup slBuf systems event).1.tasks
  accepted : (bothStep frames setup slBuf systems event).2.shared.engine.accepted =
    (bothStep frames setup slBuf systems event).1.shared.engine.accepted
  trailSl : (bothStep frames setup slBuf systems event).2.shared.engine.pos.trailSl =
    (bothStep frames setup slBuf systems event).1.shared.engine.pos.trailSl
  typed : ¬(Trails setup systems.2 event ∧ systems.2.shared.marks.last5m = .text)

structure SideBySide (systems : Tasks.System Book Sale × Tasks.System Book Sale) : Prop where
  alike : Alike systems.1.shared systems.2.shared
  tasks : systems.2.tasks = systems.1.tasks

variable {systems : Tasks.System Book Sale × Tasks.System Book Sale}

theorem trails_alike (beside : SideBySide systems) (event : Tasks.Event Handler Answer) :
    Trails setup systems.2 event ↔ Trails setup systems.1 event := by
  obtain ⟨⟨book, tasks⟩, ⟨other, others⟩⟩ := systems
  obtain ⟨⟨⟨watch, engine⟩, -, optLoop, idxLoop⟩, same⟩ := beside
  dsimp only at engine optLoop idxLoop same
  cases event with
  | start handler =>
    cases handler with
    | optionTick tick => simp [Trails, optLoop, engine, watching]
    | indexTick tick => simp [Trails, idxLoop, engine, watching]
    | endOfDay eodLtp => exact Iff.rfl
  | resume index answer => simp [Trails, TrailsOn, same, engine, watching]

/-- One event in both books. -/
theorem bothStep_handled (beside : SideBySide systems) (event : Tasks.Event Handler Answer)
    (clear : systems.2.shared.marks = systems.1.shared.marks ∨ ¬Trails setup systems.1 event) :
    SideBySide (bothStep frames setup slBuf systems event) ∧
      (systems.2.shared.marks = systems.1.shared.marks →
        (bothStep frames setup slBuf systems event).2.shared.marks =
          (bothStep frames setup slBuf systems event).1.shared.marks) ∧
      (¬Trails setup systems.1 event →
        (bothStep frames setup slBuf systems event).2.shared.marks = systems.2.shared.marks) := by
  obtain ⟨⟨book, tasks⟩, ⟨other, others⟩⟩ := systems
  obtain ⟨alike, same⟩ := beside
  dsimp only at same
  replace same : tasks = others := same.symm
  subst same
  cases event with
  | start handler =>
    have handled := startHandler_handled frames setup slBuf alike tasks handler clear
    exact ⟨⟨handled.alike, congrArg (fun sale => tasks ++ Option.toList sale) handled.sale⟩,
      handled.same, handled.kept⟩
  | resume index answer =>
    simp only [bothStep, Tasks.step]
    cases found : tasks[index]? with
    | none => exact ⟨⟨alike, rfl⟩, id, fun _ => rfl⟩
    | some sale =>
      have trails : Trails setup ⟨book, tasks⟩ (.resume index answer) ↔
          sale.origin ≠ .endOfDay ∧ TrailsOn setup book.engine sale.task answer := by
        simp [Trails, found]
      rw [trails] at clear ⊢
      have handled := resumeSale_handled frames setup slBuf alike sale answer clear
      refine ⟨⟨handled.alike, ?_⟩, handled.same, handled.kept⟩
      exact congrArg (fun later => tasks.take index ++ Option.toList later ++
        tasks.drop (index + 1)) handled.sale

/-- An event is handled alike unless it trails the stop by a text. -/
theorem agrees_iff (beside : SideBySide systems) (event : Tasks.Event Handler Answer)
    (clear : systems.2.shared.marks = systems.1.shared.marks ∨
      systems.2.shared.marks.last5m = .text) :
    Agrees frames setup slBuf systems event ↔
      ¬(Trails setup systems.1 event ∧ systems.2.shared.marks.last5m = .text) := by
  rw [← trails_alike setup beside event]
  refine ⟨Agrees.typed, fun typed => ?_⟩
  have trailed : systems.2.shared.marks = systems.1.shared.marks ∨
      ¬Trails setup systems.1 event := by
    rw [← trails_alike setup beside event]
    exact clear.imp_right (fun text trails => typed ⟨trails, text⟩)
  obtain ⟨⟨alike, tasks⟩, -, -⟩ := bothStep_handled frames setup slBuf beside event trailed
  obtain ⟨watch, engine⟩ := alike.engine
  exact ⟨tasks, by rw [engine]; rfl, by rw [engine]; rfl, typed⟩

/-- The first book of a pair follows its own events. -/
theorem typed_step (typed : systems.1.shared.marks.last5m ≠ .text)
    (event : Tasks.Event Handler Answer) :
    (bothStep frames setup slBuf systems event).1.shared.marks.last5m ≠ .text := by
  obtain ⟨⟨book, tasks⟩, restored⟩ := systems
  cases event with
  | start handler => exact startHandler_typed frames setup slBuf typed handler
  | resume index answer =>
    simp only [bothStep, Tasks.step]
    cases tasks[index]? with
    | none => exact typed
    | some sale => exact resumeSale_typed frames setup slBuf typed sale answer

/-- Books with the same marks stay together. -/
theorem agrees_same (beside : SideBySide systems)
    (same : systems.2.shared.marks = systems.1.shared.marks)
    (typed : systems.1.shared.marks.last5m ≠ .text) (events : List (Tasks.Event Handler Answer)) :
    Runs.Along (bothStep frames setup slBuf) (Agrees frames setup slBuf) systems events := by
  induction events generalizing systems with
  | nil => trivial
  | cons event rest inductionHypothesis =>
    have handled := bothStep_handled frames setup slBuf beside event (Or.inl same)
    have untouched : ¬(Trails setup systems.1 event ∧ systems.2.shared.marks.last5m = .text) :=
      fun trailed => typed (same ▸ trailed.2)
    exact ⟨(agrees_iff frames setup slBuf beside event (Or.inl same)).mpr untouched,
      inductionHypothesis handled.1 (handled.2.1 same)
        (typed_step frames setup slBuf typed event)⟩

/-- A restored text stays until an event trails the stop by it. -/
theorem agrees_text_iff (beside : SideBySide systems)
    (text : systems.2.shared.marks.last5m = .text) (events : List (Tasks.Event Handler Answer)) :
    Runs.Along (bothStep frames setup slBuf) (Agrees frames setup slBuf) systems events ↔
      Runs.Along (Tasks.step (ticks frames setup slBuf))
        (fun system event => ¬Trails setup system event) systems.1 events := by
  let together (systems : Tasks.System Book Sale × Tasks.System Book Sale) : Prop :=
    SideBySide systems ∧ systems.2.shared.marks.last5m = .text
  have agree (systems) (event) (holds : together systems) :
      Agrees frames setup slBuf systems event ↔ ¬Trails setup systems.1 event := by
    rw [agrees_iff frames setup slBuf holds.1 event (Or.inr holds.2)]
    simp [holds.2]
  have preserved (systems) (event) (holds : together systems)
      (agrees : Agrees frames setup slBuf systems event) :
      together (bothStep frames setup slBuf systems event) := by
    have untrailed := (agree systems event holds).mp agrees
    have handled := bothStep_handled frames setup slBuf holds.1 event (Or.inr untrailed)
    exact ⟨handled.1, by rw [handled.2.2 untrailed, holds.2]⟩
  rw [Runs.along_agree _ preserved agree systems events ⟨beside, text⟩]
  exact Runs.along_part (bothStep frames setup slBuf) Prod.fst (fun _ _ => rfl)
    (fun system event => ¬Trails setup system event) systems events

end Books

/-! ## A restart -/

/-- An open position of the day comes back but for the type of its mark. -/
theorem restart_marks {book : Book} (isOpen : book.engine.isOpen = true) {today : Int}
    (sameDay : dateOf book.marks.entryTs = today) :
    restart today book =
      { engine := watching book.engine none
        marks := { book.marks with last5m := loadMark (saveMark book.marks.last5m) }
        bars := book.bars } := by
  have dated : ¬dateOf book.marks.entryTs ≠ today := not_not_intro sameDay
  simp only [restart, persistPosition, isOpen, if_true, loadPersistedPosition, if_neg dated,
    watching]

/-- A position that is restored within its day, with no exit under way and both loops
running, is exited as it would have been without the restart, exactly when the stop was
not trailed before the restart or is not trailed after it. -/
theorem restart_agrees_iff (frames : Frames) (setup : Setup) (slBuf : Rat) (today : Int)
    (book : Book) (isOpen : book.engine.isOpen = true)
    (sameDay : dateOf book.marks.entryTs = today) (optLoop : book.optLoop = .running)
    (idxLoop : book.idxLoop = .running) (events : List (Tasks.Event Handler Answer)) :
    Runs.Along (bothStep frames setup slBuf) (Agrees frames setup slBuf)
        (⟨book, []⟩, ⟨restart today book, []⟩) events ↔
      book.marks.last5m = .unset ∨
        Runs.Along (Tasks.step (ticks frames setup slBuf))
          (fun system event => ¬Trails setup system event) ⟨book, []⟩ events := by
  have beside : SideBySide (⟨book, []⟩, ⟨restart today book, []⟩) := by
    rw [restart_marks isOpen sameDay]
    exact ⟨⟨⟨none, rfl⟩, rfl, optLoop.symm, idxLoop.symm⟩, rfl⟩
  by_cases unset : book.marks.last5m = .unset
  · have same : (restart today book).marks = book.marks := by
      have reread : loadMark (saveMark book.marks.last5m) = book.marks.last5m := by
        rw [unset]
        rfl
      rw [restart_marks isOpen sameDay, reread]
    exact iff_of_true (agrees_same frames setup slBuf beside same (by simp [unset]) events)
      (Or.inl unset)
  · have text : (restart today book).marks.last5m = .text := by
      rw [restart_marks isOpen sameDay]
      cases mark : book.marks.last5m with
      | unset => exact absurd mark unset
      | stamp at5m => rfl
      | text => rfl
    rw [agrees_text_iff frames setup slBuf beside text events]
    exact (or_iff_right unset).symm

/-! ## A crude-oil call -/

open TrailSafety ExitConservation

/-- The position as its entry leaves it. -/
def crudeEntered : Book where
  engine := crudeOpen.shared
  marks := { entryTs := morning (-1) }
  bars := fun _ => []

def futureTick (ltp : Rat) (minutes : Int) : Tasks.Event Handler Answer :=
  .start (.indexTick ⟨ltp, morning minutes, none, 0⟩)

/-- The near call reaches T1, and the half is sold. -/
def halfSold : List (Tasks.Event Handler Answer) :=
  [.start (.optionTick ⟨265, morning 14, true, false, false, false, fun _ => none⟩),
    .resume 0 (.broker true), .resume 0 (.placed "X1")]

theorem restart_agrees_before_the_trail :
    Runs.Along (bothStep orderedFrames crudeSetup 2) (Agrees orderedFrames crudeSetup 2)
      (⟨crudeEntered, []⟩, ⟨restart 0 crudeEntered, []⟩)
      (halfSold ++ [futureTick 6020 15, futureTick 5999 16]) :=
  (restart_agrees_iff orderedFrames crudeSetup 2 0 crudeEntered rfl (by decide) rfl rfl
    _).mpr (Or.inl rfl)

/-- After one tick that trails the stop, the future falls to the entry: the book sells the
other half, the restarted one raises and has lost its loop. -/
theorem restart_loses_the_stop :
    let step := Tasks.step (ticks orderedFrames crudeSetup 2)
    let trailed := Runs.run step ⟨crudeEntered, []⟩ (halfSold ++ [futureTick 6020 15])
    let restarted : Tasks.System Book Sale := ⟨restart 0 trailed.shared, []⟩
    (trailed.shared.engine.isOpen = true ∧ trailed.tasks = [] ∧
        trailed.shared.optLoop = .running ∧ trailed.shared.idxLoop = .running ∧
        dateOf trailed.shared.marks.entryTs = 0) ∧
      (step trailed (futureTick 5999 16)).tasks =
        [⟨.login ⟨50, 6000, .trailSl, 5999, .close⟩, .index (morning 16)⟩] ∧
      (step restarted (futureTick 5999 16)).tasks = [] ∧
      (step restarted (futureTick 5999 16)).shared.idxLoop = .ended ∧
      ¬Agrees orderedFrames crudeSetup 2 (trailed, restarted) (futureTick 5999 16) := by
  refine ⟨by decide, by decide, by decide, by decide, ?_⟩
  intro agrees
  exact absurd agrees.tasks (by decide)

end OptionChain.TrapRestart
