import OptionChain.StopTightening
import OptionChain.TrapTicks

/-!
# The stop that T1 sets in option mode

T1 sells half of the lots and sets the stop to the spot of the entry. In option mode the
ticks are premiums of the tracked strike, so the stop and the price that is compared with
it are of two kinds. From then on the stop only rises, and the first call of the trailing
stop leaves it where it is. `t1_spares_iff` says when the tick of T1 leaves the rest of the
position alone.
-/

namespace OptionChain.T1Stops

open Broker Timestamps TrapPosition TrapTrail TrapTicks StopTightening
open TrapStops (trailSetup trailOutcome)
open TrapExit (Setup Engine Task Answer Exit)

/-! ## The trailing stop from below -/

section Trail

variable {frames : Frames} {setup : TrailSetup}

theorem advanceTrap_rises {optType : OptType} (below : ¬stopsAbove setup optType)
    (barHi barLo : Rat) (trap : TrailTrap) (trailSl : Rat) :
    trailSl ≤ (advanceTrap setup optType barHi barLo trap trailSl).2 := by
  have rises (newSl : Rat) : trailSl ≤ if better setup optType newSl trailSl then newSl
      else trailSl := by
    simp only [better, if_neg below]
    split
    · exact le_of_lt ‹trailSl < newSl›
    · exact le_refl trailSl
  rw [advanceTrap]
  cases trap.state with
  | confirmed => exact le_refl trailSl
  | watching => exact le_refl trailSl
  | squeezed => exact le_refl trailSl
  | pulledBack =>
    simp only
    split
    · exact rises _
    · exact le_refl trailSl

theorem advanceTraps_rises {optType : OptType} (below : ¬stopsAbove setup optType)
    (barHi barLo : Rat) (traps : List TrailTrap) (trailSl : Rat) :
    trailSl ≤ (advanceTraps setup optType barHi barLo traps trailSl).2 := by
  induction traps generalizing trailSl with
  | nil => exact le_refl trailSl
  | cons trap rest inductionHypothesis =>
    rw [advanceTraps]
    exact (advanceTrap_rises below barHi barLo trap trailSl).trans (inductionHypothesis _)

/-- A stop below the price is only trailed up. -/
theorem updateTrailSl_rises (pos : Position) (below : ¬stopsAbove setup pos.optType)
    (bars : List StoredBar) (marks : TrailMarks) (ts : Stamp) :
    pos.trailSl ≤ (updateTrailSl frames setup pos bars marks ts).trailSl := by
  obtain ⟨left, error, ended, -⟩ | ⟨watched, bar5m, ended, -⟩ :=
    @updateTrailSl_outcome frames setup pos bars marks ts
  · rw [ended]
  · rw [ended]
    unfold advanceStop
    cases bucketOf bar5m (bars.drop (bars.length - 15)) with
    | error error => exact le_refl pos.trailSl
    | ok bucket =>
      by_cases empty : bucket = []
      · simp only [if_pos empty, le_refl]
      · simpa only [if_neg empty] using advanceTraps_rises below _ _ watched.trailTraps pos.trailSl

/-- Traps are registered as watching. -/
theorem registerTraps_watching (entryTs : Stamp) (entryPrice : Rat) (known : List Int)
    (entries : List (TrapScanner.Entry TrapScanner.LtfTag)) (traps : List TrailTrap)
    (watching : ∀ trap ∈ traps, trap.state = .watching) :
    ∀ trap ∈ (registerTraps entryTs entryPrice known entries traps).1,
      trap.state = .watching := by
  induction entries generalizing traps with
  | nil => exact watching
  | cons entry rest inductionHypothesis =>
    rw [registerTraps]
    split
    · exact inductionHypothesis traps watching
    · split
      · exact watching
      · exact inductionHypothesis traps watching
      · simp only
        split
        · exact inductionHypothesis traps watching
        · apply inductionHypothesis
          intro trap listed
          rcases List.mem_append.mp listed with earlier | new
          · exact watching trap earlier
          · rw [List.mem_singleton.mp new]

/-- A trap that is watched does not move the stop. -/
theorem advanceTraps_watching (optType : OptType) (barHi barLo : Rat) (traps : List TrailTrap)
    (trailSl : Rat) (watching : ∀ trap ∈ traps, trap.state = .watching) :
    (advanceTraps setup optType barHi barLo traps trailSl).2 = trailSl := by
  induction traps generalizing trailSl with
  | nil => rfl
  | cons trap rest inductionHypothesis =>
    obtain ⟨first, later⟩ := List.forall_mem_cons.mp watching
    have stays : (advanceTrap setup optType barHi barLo trap trailSl).2 = trailSl := by
      rw [advanceTrap, first]
    rw [advanceTraps]
    simp only [stays]
    exact inductionHypothesis trailSl later

/-- Without an earlier trap a call leaves the stop. -/
theorem updateTrailSl_first (pos : Position) (bars : List StoredBar) {marks : TrailMarks}
    (untrapped : marks.trailTraps = []) (ts : Stamp) :
    (updateTrailSl frames setup pos bars marks ts).trailSl = pos.trailSl := by
  obtain ⟨left, error, ended, -⟩ | ⟨watched, bar5m, ended, -, df5, registered⟩ :=
    @updateTrailSl_outcome frames setup pos bars marks ts
  · rw [ended]
  · have watching : ∀ trap ∈ watched.trailTraps, trap.state = .watching := by
      rw [registered, untrapped]
      exact registerTraps_watching _ _ _ _ [] (by simp)
    rw [ended]
    unfold advanceStop
    cases bucketOf bar5m (bars.drop (bars.length - 15)) with
    | error error => rfl
    | ok bucket =>
      by_cases empty : bucket = []
      · simp only [if_pos empty]
      · simpa only [if_neg empty] using
          advanceTraps_watching pos.optType _ _ watched.trailTraps pos.trailSl watching

end Trail

/-! ## The checks of a position after T1 -/

/-- A tick has left the stop at or below its price, and the rest of an open position. -/
def SparedBy (ltp : Rat) (engine : Engine) (done : Engine × Option Task) : Prop :=
  done.1.pos.trailSl ≤ ltp ∧ (engine.isOpen = true → closes done = false)

instance (ltp : Rat) (engine : Engine) (done : Engine × Option Task) :
    Decidable (SparedBy ltp engine done) := inferInstanceAs (Decidable (_ ∧ (_ → _)))

section Checks

variable {setup : Setup} {engine : Engine}

/-- A floor that was not locked before does not break in the tick that locks it. -/
theorem floorBroken_unlocked {pos : Position} (unlocked : pos.floorLocked = false) (ltp : Rat) :
    TrapExit.floorBroken setup (TrapExit.lockFloor setup pos ltp) ltp = false := by
  rw [TrapExit.lockFloor]
  split
  · rename_i locks
    have reached : setup.profitFloor ≤ TrapExit.floorPnl setup pos ltp := by
      simp only [Bool.and_eq_true, decide_eq_true_eq] at locks
      exact locks.2
    have above : ¬TrapExit.floorPnl setup { pos with floorLocked := true } ltp <
        setup.profitFloor := not_lt.mpr reached
    simp only [TrapExit.floorBroken, decide_eq_false above, Bool.and_false]
  · simp [TrapExit.floorBroken, unlocked]

/-- In option mode a position after T1 is stopped from above the price. -/
theorem slHit_trailed (option : setup.htfSource = .option) {pos : Position}
    (trails : setup.noTargetTsl = false ∧ pos.t1Hit = true) (ltp : Rat) :
    TrapExit.slHit setup pos ltp = true ↔ ltp ≤ pos.trailSl := by
  rw [TrapExit.slHit, if_neg (by simp [option]), activeSl_trailed trails, decide_eq_true_eq]

/-- The checks after T1 spare what is above the stop. -/
theorem checkStops_spared_iff (option : setup.htfSource = .option)
    (trails : setup.noTargetTsl = false ∧ engine.pos.t1Hit = true)
    (unlocked : engine.pos.floorLocked = false) {ltp : Rat} {before : Engine}
    (isOpen : engine.isOpen = before.isOpen) :
    SparedBy ltp before (TrapExit.checkStops setup engine ltp) ↔
      engine.pos.trailSl < ltp ∨ engine.pos.trailSl = ltp ∧ before.isOpen = false := by
  have left := (@checkStops_leaves setup engine ltp).trailSl
  rw [SparedBy, left]
  cases held : before.isOpen with
  | false => simp [le_iff_lt_or_eq]
  | true =>
    have closed := @checkStops_closes_iff_hit setup engine ltp (isOpen.trans held)
    rw [floorBroken_unlocked unlocked, slHit_trailed option trails] at closed
    have spared : closes (TrapExit.checkStops setup engine ltp) = false ↔
        engine.pos.trailSl < ltp := by
      rw [← Bool.not_eq_true, closed]
      simp
    simp only [spared, forall_const, Bool.true_eq_false, and_false, or_false]
    exact and_iff_right_of_imp le_of_lt

/-- So does a tick that goes on after T1 with a trailing stop that leaves the stop. An error
of the trailing stop spares everything. -/
theorem settleTick_spared_iff (option : setup.htfSource = .option)
    (trails : setup.noTargetTsl = false ∧ engine.pos.t1Hit = true)
    (unlocked : engine.pos.floorLocked = false) {ltp : Rat} {before : Engine}
    (isOpen : engine.isOpen = before.isOpen) {trailed : Trailed}
    (first : trailed.trailSl = engine.pos.trailSl) :
    SparedBy ltp before (TrapExit.settleTick setup engine ⟨ltp, trailOutcome trailed⟩) ↔
      engine.pos.trailSl < ltp ∨
        engine.pos.trailSl = ltp ∧ (before.isOpen = true → trailed.error ≠ none) := by
  by_cases fine : trailed.error = none
  · rw [trailOutcome, if_pos fine, settleTick_moved trails,
      @checkStops_spared_iff _ (restop engine trailed.trailSl) option trails unlocked _ _ isOpen]
    simp [restop, first, fine]
  · rw [trailOutcome, if_neg fine, settleTick_raised trails]
    have spared : SparedBy ltp before (engine, none) ↔ engine.pos.trailSl ≤ ltp :=
      and_iff_left (fun held => by simp [closes, isOpen, held])
    rw [spared, le_iff_lt_or_eq]
    simp [fine]

/-- What a tick of a position after T1 leaves of its stop. -/
theorem settleTick_trailSl (trails : setup.noTargetTsl = false ∧ engine.pos.t1Hit = true)
    (ltp : Rat) {trailed : Trailed} (rises : engine.pos.trailSl ≤ trailed.trailSl) :
    engine.pos.trailSl ≤
      (TrapExit.settleTick setup engine ⟨ltp, trailOutcome trailed⟩).1.pos.trailSl := by
  by_cases fine : trailed.error = none
  · rw [trailOutcome, if_pos fine, settleTick_moved trails, (checkStops_leaves ltp).trailSl]
    exact rises
  · rw [trailOutcome, if_neg fine, settleTick_raised trails]

/-! ## What the exits leave -/

/-- The engine after the T1 part of a tick. -/
def halved (engine : Engine) (whole : engine.pos.t1Hit = false) (ltp : Rat) : Engine :=
  { engine with
    pos := { engine.pos.takeT1 whole with
      t1RealisedPnl := (ltp - engine.pos.entryPrice) * engine.pos.t1Qty } }

/-- The sale of T1. -/
def halfExit (pos : Position) (tick : TrapExit.Tick) : Exit :=
  ⟨pos.t1Qty, pos.t1Price, .t1, tick.ltp, .tickT1 tick⟩

/-- A tick that takes T1 waits for its sale, or has nothing to sell. -/
theorem checkTickExit_reaches {tick : TrapExit.Tick}
    (reaches : ReachesT1 setup engine.pos tick.ltp) (isOpen : engine.isOpen = true) :
    TrapExit.checkTickExit setup engine tick =
      if 0 < engine.pos.t1Qty then
        (halved engine reaches.1 tick.ltp, some (.login (halfExit engine.pos tick)))
      else TrapExit.settleTick setup
        (TrapExit.recordHalf (halved engine reaches.1 tick.ltp) (halfExit engine.pos tick) none)
        tick := by
  obtain ⟨whole, standard, reached, option⟩ := reaches
  rw [TrapExit.checkTickExit, dif_pos whole, if_pos ⟨standard, reached, option⟩]
  have asks : TrapExit.returnsAtOnce (halved engine whole tick.ltp) (halfExit engine.pos tick) =
      decide (engine.pos.t1Qty ≤ 0) := by
    rw [TrapExit.returnsAtOnce, show (halved engine whole tick.ltp).isOpen = true from isOpen]
    exact Bool.or_false _
  change TrapExit.beginHalf setup (halved engine whole tick.ltp) (halfExit engine.pos tick) = _
  by_cases sells : 0 < engine.pos.t1Qty
  · rw [TrapExit.beginHalf, asks, if_pos sells, if_neg (by simpa using sells)]
  · rw [TrapExit.beginHalf, asks, if_neg sells, if_pos (by simpa using sells)]
    rfl

theorem checkTickExit_settles {tick : TrapExit.Tick}
    (later : ¬ReachesT1 setup engine.pos tick.ltp) :
    TrapExit.checkTickExit setup engine tick = TrapExit.settleTick setup engine tick := by
  rw [TrapExit.checkTickExit]
  split
  · rename_i whole
    exact if_neg (fun reaches => later ⟨whole, reaches⟩)
  · rfl

theorem beginClose_pos (exit : Exit) :
    (TrapExit.beginClose engine exit).1.pos = engine.pos := by
  rw [TrapExit.beginClose]
  split <;> rfl

theorem checkStops_pos (ltp : Rat) :
    (TrapExit.checkStops setup engine ltp).1.pos = TrapExit.lockFloor setup engine.pos ltp := by
  rw [TrapExit.checkStops]
  split
  · exact beginClose_pos _
  · split
    · exact beginClose_pos _
    · rfl

/-- An answer that `_place_exit` does not return with leaves the engine. -/
theorem resumeExit_waits {task : Task} {answer : Answer} (waits : returns task answer = false) :
    ∃ next, TrapExit.resumeExit setup engine task answer = (engine, next) ∧
      ∀ later ∈ next, later.exit = task.exit := by
  cases task with
  | login exit =>
    cases answer with
    | broker ready =>
      cases ready with
      | false => cases waits
      | true =>
        rw [TrapExit.resumeExit, if_pos rfl]
        split
        · exact ⟨_, rfl, by simp⟩
        · exact ⟨_, rfl, by simp⟩
    | placed orderId => exact ⟨_, rfl, by simp⟩
    | raised => exact ⟨_, rfl, by simp⟩
  | placing exit request =>
    cases answer with
    | broker ready => exact ⟨_, rfl, by simp⟩
    | placed orderId => cases waits
    | raised => cases waits

/-- The other answers go back to the caller, with what the broker has accepted. -/
theorem resumeExit_returns {task : Task} {answer : Answer} (back : returns task answer = true) :
    ∃ accepted orderId, TrapExit.resumeExit setup engine task answer =
      TrapExit.returned setup { engine with accepted := accepted } task.exit orderId := by
  cases task with
  | login exit =>
    cases answer with
    | broker ready =>
      cases ready with
      | false => exact ⟨engine.accepted, none, rfl⟩
      | true => cases back
    | placed orderId => cases back
    | raised => cases back
  | placing exit request =>
    cases answer with
    | broker ready => cases back
    | placed orderId => exact ⟨_, some orderId, rfl⟩
    | raised => exact ⟨engine.accepted, none, rfl⟩

/-- A handler that takes no T1: what the T1 of a position depends on stays, and no task
goes on with a tick. -/
structure Steady (pos : Position) (done : Engine × Option Task) : Prop where
  t1Hit : done.1.pos.t1Hit = pos.t1Hit
  trailSl : done.1.pos.trailSl = pos.trailSl
  spotAtEntry : done.1.pos.spotAtEntry = pos.spotAtEntry
  floorLocked : done.1.pos.floorLocked = pos.floorLocked
  plain : ∀ task ∈ done.2, goesOn task = false

theorem beginClose_steady {exit : Exit} (full : exit.after = .close) :
    Steady engine.pos (TrapExit.beginClose engine exit) := by
  rw [TrapExit.beginClose]
  split
  · exact ⟨rfl, rfl, rfl, rfl, by simp⟩
  · exact ⟨rfl, rfl, rfl, rfl, by simp [goesOn, full]⟩

theorem eodSquareOff_steady (eodLtp : Rat) :
    Steady engine.pos (TrapExit.eodSquareOff engine eodLtp) := by
  rw [TrapExit.eodSquareOff]
  split
  · exact beginClose_steady rfl
  · exact ⟨rfl, rfl, rfl, rfl, by simp⟩

theorem resumeExit_steady {task : Task} (plain : goesOn task = false) (answer : Answer) :
    Steady engine.pos (TrapExit.resumeExit setup engine task answer) := by
  cases back : returns task answer with
  | false =>
    obtain ⟨next, waited, same⟩ := @resumeExit_waits setup engine _ _ back
    rw [waited]
    exact ⟨rfl, rfl, rfl, rfl, fun later started => by rw [goesOn, same later started]; exact plain⟩
  | true =>
    obtain ⟨accepted, orderId, returned⟩ := @resumeExit_returns setup engine _ _ back
    rw [returned, TrapExit.returned]
    rw [goesOn] at plain
    cases after : task.exit.after with
    | close => exact ⟨rfl, rfl, rfl, rfl, by simp⟩
    | optionT1 =>
      simp only [TrapExit.halfDone, after]
      exact ⟨rfl, rfl, rfl, rfl, by simp⟩
    | tickT1 tick => simp [after] at plain

/-- A tick that goes on leaves whether T1 was hit. -/
theorem checkStops_goesOn (ltp : Rat) :
    (TrapExit.checkStops setup engine ltp).1.pos.t1Hit = engine.pos.t1Hit ∧
      ∀ task ∈ (TrapExit.checkStops setup engine ltp).2, goesOn task = false := by
  constructor
  · rw [checkStops_pos]
    obtain same | same := @lockFloor_same setup engine.pos ltp
    · rw [same]
    · rw [same]
  · rw [TrapExit.checkStops]
    split
    · exact (beginClose_steady rfl).plain
    · split
      · exact (beginClose_steady rfl).plain
      · simp

theorem settleTick_goesOn (tick : TrapExit.Tick) :
    (TrapExit.settleTick setup engine tick).1.pos.t1Hit = engine.pos.t1Hit ∧
      ∀ task ∈ (TrapExit.settleTick setup engine tick).2, goesOn task = false := by
  rw [TrapExit.settleTick]
  split
  · cases tick.trail with
    | kept => exact checkStops_goesOn tick.ltp
    | moved trailSl =>
      exact @checkStops_goesOn setup (restop engine trailSl) tick.ltp
    | raised => exact ⟨rfl, by simp⟩
  · exact checkStops_goesOn tick.ltp

/-- Before T1 the floor is not watched. -/
theorem checkStops_whole (standard : setup.noTargetTsl = false)
    (whole : engine.pos.t1Hit = false) (ltp : Rat) :
    (TrapExit.checkStops setup engine ltp).1.pos = engine.pos := by
  have unwatched : TrapExit.floorWatched setup engine.pos = false := by
    simp [TrapExit.floorWatched, standard, whole]
  rw [checkStops_pos, TrapExit.lockFloor, unwatched]
  rfl

end Checks

/-! ## One event of a book -/

/-- The exits of a handler. -/
def exitsOf (done : Book × Option Sale) : Engine × Option Task :=
  (done.1.engine, done.2.map Sale.task)

theorem exitsOf_within (outcome : Outcome) (origin : Origin) :
    exitsOf (outcome.within origin) = (outcome.book.engine, outcome.task) := by
  cases origin <;> simp [exitsOf, Outcome.within, Option.map_map, Function.comp_def]

section Book

variable (frames : Frames) (setup : Setup) (slBuf : Rat)

/-- An option tick takes T1. -/
def HitsT1 (book : Book) (tick : OptTick) : Prop :=
  book.optLoop = .running ∧ book.engine.isOpen = true ∧
    tick.tracks book.engine.pos.leg = true ∧ ReachesT1 setup book.engine.pos tick.ltp

instance (book : Book) (tick : OptTick) : Decidable (HitsT1 setup book tick) :=
  inferInstanceAs (Decidable (_ ∧ _ ∧ _ ∧ _))

/-- The tick of T1 spares the rest of the position, from its start to its end. -/
def SparesRest (system : Tasks.System Book Sale) : Tasks.Event Handler Answer → Prop
  | .start (.optionTick tick) => HitsT1 setup system.shared tick →
      SparedBy tick.ltp system.shared.engine
        (exitsOf (optionTick frames setup slBuf system.shared tick))
  | .start (.indexTick _) | .start (.endOfDay _) => True
  | .resume index answer => ∀ sale ∈ system.tasks[index]?, match sale.task.exit.after with
      | .tickT1 tick => SparedBy tick.ltp system.shared.engine
          (exitsOf (resumeSale frames setup slBuf system.shared sale answer))
      | .optionT1 | .close => True

/-- After T1 the stop does not fall. -/
def Rises (system : Tasks.System Book Sale) (event : Tasks.Event Handler Answer) : Prop :=
  system.shared.engine.pos.t1Hit = true →
    system.shared.engine.pos.trailSl ≤
      (Tasks.step (ticks frames setup slBuf) system event).shared.engine.pos.trailSl

def Spared (system : Tasks.System Book Sale) (event : Tasks.Event Handler Answer) : Prop :=
  SparesRest frames setup slBuf system event ∧ Rises frames setup slBuf system event

/-- The price is above the spot of the entry, or equal to it where no check follows: the
tick still waits, the position is gone, or the trailing stop raises. -/
def Clears (book : Book) (ltp : Rat) (ts : Stamp) (settles : Prop) : Prop :=
  book.engine.pos.spotAtEntry < ltp ∨ book.engine.pos.spotAtEntry = ltp ∧
    (settles → ¬TrailSafety.Safe frames (book.bars book.engine.pos.leg) book.marks ts)

instance (book : Book) (ltp : Rat) (ts : Stamp) (settles : Prop) [Decidable settles] :
    Decidable (Clears frames book ltp ts settles) := inferInstanceAs (Decidable (_ ∨ _ ∧ (_ → _)))

/-- The price of a tick that waits for the sale of T1 clears the spot. -/
def ClearsAnswered (book : Book) (back : Bool) : TrapExit.After → Origin → Prop
  | .tickT1 tick, .option ts =>
      Clears frames book tick.ltp ts (book.engine.isOpen = true ∧ back = true)
  | _, _ => True

instance (book : Book) (back : Bool) :
    ∀ after origin, Decidable (ClearsAnswered frames book back after origin)
  | .tickT1 tick, .option ts => inferInstanceAs (Decidable (Clears frames book tick.ltp ts _))
  | .tickT1 _, .index _ | .tickT1 _, .endOfDay | .optionT1, _ | .close, _ =>
      inferInstanceAs (Decidable True)

/-- What the tick of T1 has to meet at its start and at its end. -/
def ClearsSpot (system : Tasks.System Book Sale) : Tasks.Event Handler Answer → Prop
  | .start (.optionTick tick) => HitsT1 setup system.shared tick →
      Clears frames { system.shared with bars := tick.store system.shared.bars } tick.ltp tick.ts
        (system.shared.engine.pos.t1Qty ≤ 0)
  | .start (.indexTick _) | .start (.endOfDay _) => True
  | .resume index answer => ∀ sale ∈ system.tasks[index]?,
      ClearsAnswered frames system.shared (returns sale.task answer) sale.task.exit.after
        sale.origin

instance (system : Tasks.System Book Sale) :
    ∀ event, Decidable (ClearsSpot frames setup system event)
  | .start (.optionTick tick) =>
      inferInstanceAs (Decidable (HitsT1 setup system.shared tick → Clears _ _ _ _ _))
  | .start (.indexTick _) | .start (.endOfDay _) => inferInstanceAs (Decidable True)
  | .resume index answer => inferInstanceAs (Decidable (∀ sale ∈ system.tasks[index]?,
      ClearsAnswered frames system.shared (returns sale.task answer) sale.task.exit.after
        sale.origin))

/-- The trailing stop that a round of the option loop hands to the exits. -/
def tickTrail (book : Book) (ltp : Rat) (ts : Stamp) (checks : Bool) : TrapExit.Trail :=
  if checks ∧ TrailsAtOnce setup book.engine.pos ltp then
    trailOutcome (trailOn frames setup slBuf book (trailedPos setup book.engine.pos ltp) ts)
  else .kept

theorem handleTick_exits (book : Book) (ltp : Rat) (ts : Stamp) (checks : Bool)
    (exits : TrapExit.Trail → Engine × Option Task) :
    let outcome := handleTick frames setup slBuf book ltp ts checks exits
    (outcome.book.engine, outcome.task) =
      exits (tickTrail frames setup slBuf book ltp ts checks) := by
  intro outcome
  by_cases trailing : checks = true ∧ TrailsAtOnce setup book.engine.pos ltp
  · simp only [outcome, handleTick, tickTrail, if_pos trailing]
  · simp only [outcome, handleTick, tickTrail, if_neg trailing, Book.withEngine]

/-- A round of the option loop on a position that it tracks. -/
theorem optionTick_exits {book : Book} {tick : OptTick} (running : book.optLoop = .running)
    (isOpen : book.engine.isOpen = true) (tracks : tick.tracks book.engine.pos.leg = true) :
    exitsOf (optionTick frames setup slBuf book tick) =
      TrapExit.checkTickExit setup book.engine ⟨tick.ltp, tickTrail frames setup slBuf
        { book with bars := tick.store book.bars } tick.ltp tick.ts true⟩ := by
  rw [optionTick, if_pos running, exitsOf_within, handleTick_exits]
  simp only [isOpen, tracks, Bool.and_true]
  rw [TrapExit.optTick, if_pos isOpen, if_pos]
  · rfl
  · rwa [exitTick_tracks]

/-- A round of the option loop on another position changes nothing of the engine. -/
theorem optionTick_untracked (option : setup.htfSource = .option) {book : Book} {tick : OptTick}
    (untracked : ¬(book.optLoop = .running ∧ book.engine.isOpen = true ∧
      tick.tracks book.engine.pos.leg = true)) :
    exitsOf (optionTick frames setup slBuf book tick) = (book.engine, none) := by
  by_cases running : book.optLoop = .running
  · rw [optionTick, if_pos running, exitsOf_within, handleTick_exits]
    simp only [running, true_and] at untracked
    rw [TrapExit.optTick]
    split
    · rename_i isOpen
      refine (if_neg ?_).trans (if_neg ?_)
      · rw [exitTick_tracks]
        exact fun tracks => untracked ⟨isOpen, tracks⟩
      · simp [option]
    · rfl
  · rw [optionTick, if_neg running]
    rfl

/-! ## The tick of T1 -/

/-- No tick has trailed the stop or locked the floor. -/
def Fresh (book : Book) : Prop :=
  book.marks.trailTraps = [] ∧ book.engine.pos.floorLocked = false

variable {frames setup slBuf}

/-- A first call raises exactly where its comparisons cannot be made. -/
theorem trailOn_first {book : Book} (aware : book.marks.entryTs.aware = true)
    (fresh : Fresh book) (pos : Position) (ts : Stamp) :
    (trailOn frames setup slBuf book pos ts).trailSl = pos.trailSl ∧
      ((trailOn frames setup slBuf book pos ts).error ≠ none ↔
        ¬TrailSafety.Safe frames (book.bars pos.leg) book.marks ts) :=
  ⟨updateTrailSl_first pos (book.bars pos.leg) fresh.1 ts,
    not_congr (TrailSafety.trail_safe_iff frames (trailSetup setup slBuf) pos
      (book.bars pos.leg) book.marks ts aware)⟩

/-- A task that waits with T1 taken spares what is not below the stop. -/
theorem waiting_spared_iff {ltp : Rat} {before engine : Engine} {next : Option Task}
    (isOpen : engine.isOpen = before.isOpen) (half : ∀ task ∈ next, goesOn task = true) :
    SparedBy ltp before (engine, next) ↔ engine.pos.trailSl ≤ ltp := by
  apply and_iff_left
  intro held
  have none : next.any (fun task => task.exit.full) = false := by
    cases next with
    | none => rfl
    | some task =>
      have going := half task rfl
      rw [goesOn] at going
      cases after : task.exit.after with
      | close => simp [after] at going
      | optionT1 => simp [after] at going
      | tickT1 tick => simp [TrapExit.Exit.full, after]
  simp [closes, isOpen, held, none]

/-- The start of the tick that takes T1. -/
theorem optionTick_spared_iff (option : setup.htfSource = .option) {book : Book}
    (aware : book.marks.entryTs.aware = true) (fresh : Fresh book) {tick : OptTick}
    (hits : HitsT1 setup book tick) :
    SparedBy tick.ltp book.engine (exitsOf (optionTick frames setup slBuf book tick)) ↔
      Clears frames { book with bars := tick.store book.bars } tick.ltp tick.ts
        (book.engine.pos.t1Qty ≤ 0) := by
  obtain ⟨running, isOpen, tracks, reaches⟩ := hits
  let stored : Book := { book with bars := tick.store book.bars }
  rw [optionTick_exits frames setup slBuf running isOpen tracks,
    @checkTickExit_reaches setup book.engine ⟨tick.ltp, _⟩ reaches isOpen, Clears]
  by_cases sells : 0 < book.engine.pos.t1Qty
  · rw [if_pos sells, waiting_spared_iff (by rfl) (by simp [goesOn, halfExit])]
    have waits : ¬book.engine.pos.t1Qty ≤ 0 := not_le.mpr sells
    simp only [waits, false_imp_iff, and_true]
    exact le_iff_lt_or_eq
  · have nothing : book.engine.pos.t1Qty ≤ 0 := not_lt.mp sells
    have trailing : TrailsAtOnce setup book.engine.pos tick.ltp :=
      ⟨reaches.2.1, Or.inr ⟨reaches, nothing⟩⟩
    obtain ⟨kept, raises⟩ := @trailOn_first frames setup slBuf stored aware fresh
      (trailedPos setup book.engine.pos tick.ltp) tick.ts
    have handed : tickTrail frames setup slBuf stored tick.ltp tick.ts true = trailOutcome
        (trailOn frames setup slBuf stored (trailedPos setup book.engine.pos tick.ltp) tick.ts) :=
      if_pos ⟨rfl, trailing⟩
    have moved : (trailedPos setup book.engine.pos tick.ltp).trailSl =
        book.engine.pos.spotAtEntry := by rw [trailedPos, if_pos reaches]
    have leg : (trailedPos setup book.engine.pos tick.ltp).leg = book.engine.pos.leg := by
      rw [trailedPos, if_pos reaches]
    rw [leg] at raises
    have spared := @settleTick_spared_iff setup
      (TrapExit.recordHalf (halved book.engine reaches.1 tick.ltp) (halfExit book.engine.pos
        ⟨tick.ltp, trailOutcome (trailOn frames setup slBuf stored
          (trailedPos setup book.engine.pos tick.ltp) tick.ts)⟩) none)
      option ⟨reaches.2.1, rfl⟩ fresh.2 tick.ltp book.engine rfl _ (kept.trans moved)
    rw [if_neg sells, handed]
    refine spared.trans ?_
    rw [raises]
    simp only [isOpen, nothing, forall_const]
    exact Iff.rfl

/-- The caller of a sale goes on with the outcome of the trailing stop at that time. -/
theorem returned_retrailed {engine : Engine} {task : Task} {tick : TrapExit.Tick}
    (after : task.exit.after = .tickT1 tick) (trail : TrapExit.Trail) (orderId : Option String) :
    TrapExit.returned setup engine (retrailTask trail task).exit orderId =
      TrapExit.settleTick setup (TrapExit.recordHalf engine (retrailTask trail task).exit orderId)
        ⟨tick.ltp, trail⟩ := by
  have retrailed : (retrailTask trail task).exit = retrail trail task.exit := by
    cases task <;> rfl
  rw [retrailed, retrail, after]
  rfl

theorem returns_retrailed (task : Task) (answer : Answer) (trail : TrapExit.Trail) :
    returns (retrailTask trail task) answer = returns task answer := by
  cases task <;> cases answer <;> rfl

/-- An answer that lets the tick of T1 go on records the half and settles. -/
theorem resumeTick_trailed {book : Book} {task : Task} {tick : TrapExit.Tick}
    (after : task.exit.after = .tickT1 tick) {ts : Stamp} {answer : Answer}
    (trailing : TrailsOn setup book.engine task answer) :
    ∃ accepted exit orderId,
      let outcome := resumeTick frames setup slBuf book task ts answer
      (outcome.book.engine, outcome.task) = TrapExit.settleTick setup
        (TrapExit.recordHalf { book.engine with accepted := accepted } exit orderId)
        ⟨tick.ltp, trailOutcome (trailOn frames setup slBuf book book.engine.pos ts)⟩ := by
  let trail := trailOutcome (trailOn frames setup slBuf book book.engine.pos ts)
  have again := (returns_retrailed task answer trail).trans trailing.1
  obtain ⟨accepted, orderId, returned⟩ := @resumeExit_returns setup book.engine _ _ again
  refine ⟨accepted, (retrailTask trail task).exit, orderId, ?_⟩
  rw [resumeTick, if_pos trailing]
  simp only [trail] at returned
  simp only [returned, returned_retrailed after, trail]

/-- The sale of T1 is answered. -/
theorem resumeSale_spared_iff (option : setup.htfSource = .option)
    (standard : setup.noTargetTsl = false) {book : Book}
    (aware : book.marks.entryTs.aware = true) (fresh : Fresh book)
    (hit : book.engine.pos.t1Hit = true)
    (atSpot : book.engine.pos.trailSl = book.engine.pos.spotAtEntry) {task : Task}
    {tick : TrapExit.Tick} (after : task.exit.after = .tickT1 tick) (ts : Stamp)
    (answer : Answer) :
    SparedBy tick.ltp book.engine
        (exitsOf (resumeSale frames setup slBuf book ⟨task, .option ts⟩ answer)) ↔
      Clears frames book tick.ltp ts
        (book.engine.isOpen = true ∧ returns task answer = true) := by
  have going : goesOn task = true := by simp [goesOn, after]
  rw [resumeSale, exitsOf_within, Clears, ← atSpot]
  cases back : returns task answer with
  | true =>
    have trailing : TrailsOn setup book.engine task answer := ⟨back, going, standard, hit⟩
    obtain ⟨kept, raises⟩ :=
      @trailOn_first frames setup slBuf book aware fresh book.engine.pos ts
    obtain ⟨accepted, exit, orderId, settles⟩ :=
      @resumeTick_trailed frames setup slBuf book task tick after ts answer trailing
    have spared := @settleTick_spared_iff setup
      (TrapExit.recordHalf { book.engine with accepted := accepted } exit orderId)
      option ⟨standard, hit⟩ fresh.2 tick.ltp book.engine rfl _ kept
    rw [settles]
    refine spared.trans ?_
    rw [raises]
    simp only [and_true]
    exact Iff.rfl
  | false =>
    have untrailed : ¬TrailsOn setup book.engine task answer := fun trailing =>
      absurd (back ▸ trailing.1) Bool.false_ne_true
    obtain ⟨next, waited, same⟩ := @resumeExit_waits setup book.engine _ _ back
    rw [resumeTick, if_neg untrailed, waited]
    simp only [Bool.false_eq_true, and_false, false_imp_iff, and_true]
    rw [← le_iff_lt_or_eq]
    apply waiting_spared_iff rfl
    intro later started
    rw [goesOn, same later started]
    exact going

/-! ## What every book keeps -/

def inOption : Origin → Bool
  | .option _ => true
  | .index _ | .endOfDay => false

/-- The option loop waits for the one sale of its own at most. Until T1 the book is fresh,
and as long as the sale of T1 is under way it stays so, with the spot as stop. -/
structure Sane (book : Book) (tasks : List Sale) : Prop where
  aware : book.marks.entryTs.aware = true
  alone : tasks.countP (fun sale => inOption sale.origin) ≤
    if book.optLoop = .waiting then 1 else 0
  before : book.engine.pos.t1Hit = false → Fresh book
  pending : ∀ sale ∈ tasks, goesOn sale.task = true → inOption sale.origin = true ∧
    book.engine.pos.t1Hit = true ∧
      book.engine.pos.trailSl = book.engine.pos.spotAtEntry ∧ Fresh book

section Keep

variable {book : Book} {tasks : List Sale}

/-- Without a sale of the option loop no T1 is under way. -/
theorem none_pending (sane : Sane book tasks)
    (empty : tasks.countP (fun sale => inOption sale.origin) = 0) :
    ∀ sale ∈ tasks, goesOn sale.task = false := by
  intro sale listed
  cases going : goesOn sale.task with
  | false => rfl
  | true =>
    have inside := (sane.pending sale listed going).1
    exact absurd inside (List.countP_eq_zero.mp empty sale listed)

/-- A handler outside the option loop that takes no T1. -/
theorem sane_steady (sane : Sane book tasks) {after : Book} {next : Option Sale}
    (marks : after.marks = book.marks) (loop : after.optLoop = book.optLoop)
    (steady : Steady book.engine.pos (exitsOf (after, next)))
    (outside : ∀ sale ∈ next, inOption sale.origin = false) :
    Sane after (next.toList ++ tasks) := by
  have fresh : Fresh book → Fresh after := fun fresh =>
    ⟨by rw [marks]; exact fresh.1, steady.floorLocked.trans fresh.2⟩
  constructor
  case aware => rw [marks]; exact sane.aware
  case alone =>
    have none : next.toList.countP (fun sale => inOption sale.origin) = 0 := by
      cases next with
      | none => rfl
      | some sale => simp [outside sale rfl]
    rw [List.countP_append, none, Nat.zero_add, loop]
    exact sane.alone
  case before =>
    intro whole
    exact fresh (sane.before (steady.t1Hit.symm.trans whole))
  case pending =>
    intro sale listed going
    rcases List.mem_append.mp listed with new | earlier
    · have plain := steady.plain sale.task (by
        cases next with
        | none => cases new
        | some other =>
          rw [Option.toList_some, List.mem_singleton] at new
          rw [new]
          rfl)
      rw [going] at plain
      cases plain
    · obtain ⟨inside, hit, atSpot, untouched⟩ := sane.pending sale earlier going
      exact ⟨inside, steady.t1Hit.trans hit,
        steady.trailSl.trans (atSpot.trans steady.spotAtEntry.symm), fresh untouched⟩

/-- A handler of the option loop leaves a fresh book before T1, and the spot as stop while
the sale of T1 is under way. -/
structure KeepsT1 (outcome : Outcome) : Prop where
  aware : outcome.book.marks.entryTs.aware = true
  before : outcome.book.engine.pos.t1Hit = false → Fresh outcome.book
  pending : ∀ task ∈ outcome.task, goesOn task = true →
    outcome.book.engine.pos.t1Hit = true ∧
      outcome.book.engine.pos.trailSl = outcome.book.engine.pos.spotAtEntry ∧
        Fresh outcome.book

/-- A handler of the option loop, with no other sale of that loop under way. -/
theorem sane_within {outcome : Outcome} {ts : Stamp}
    (empty : tasks.countP (fun sale => inOption sale.origin) = 0)
    (plain : ∀ sale ∈ tasks, goesOn sale.task = false) (keeps : KeepsT1 outcome) :
    let done := outcome.within (.option ts)
    Sane done.1 (done.2.toList ++ tasks) := by
  intro done
  constructor
  case aware => exact keeps.aware
  case alone =>
    rw [List.countP_append, empty, Nat.add_zero]
    simp only [done, Outcome.within, Outcome.loop]
    cases outcome.task with
    | none => simp
    | some task => simp [inOption]
  case before => exact keeps.before
  case pending =>
    intro sale listed going
    rcases List.mem_append.mp listed with new | earlier
    · cases held : outcome.task with
      | none => simp [done, Outcome.within, held] at new
      | some task =>
        have same : sale = ⟨task, .option ts⟩ := by simpa [done, Outcome.within, held] using new
        subst same
        exact ⟨rfl, keeps.pending task held going⟩
    · rw [plain sale earlier] at going
      cases going

theorem handleTick_aware (aware : book.marks.entryTs.aware = true) (ltp : Rat) (ts : Stamp)
    (checks : Bool) (exits : TrapExit.Trail → Engine × Option Task) :
    (handleTick frames setup slBuf book ltp ts checks exits).book.marks.entryTs.aware = true := by
  by_cases trailing : checks = true ∧ TrailsAtOnce setup book.engine.pos ltp
  · rw [handleTick, if_pos trailing]
    exact (congrArg Stamp.aware (updateTrailSl_marked _ _ _ _).entryTs).trans aware
  · rw [handleTick, if_neg trailing]
    exact aware

theorem handleTick_marks {ltp : Rat} {ts : Stamp} {checks : Bool}
    {exits : TrapExit.Trail → Engine × Option Task}
    (untrailed : ¬(checks = true ∧ TrailsAtOnce setup book.engine.pos ltp)) :
    (handleTick frames setup slBuf book ltp ts checks exits).book.marks = book.marks := by
  rw [handleTick, if_neg untrailed]
  rfl

/-- A tick that does not take T1 leaves a fresh book before T1, and no task that goes on. -/
theorem settle_sane (standard : setup.noTargetTsl = false) {engine : Engine}
    (tick : TrapExit.Tick) :
    (engine.pos.t1Hit = false →
        (TrapExit.settleTick setup engine tick).1.pos = engine.pos) ∧
      (TrapExit.settleTick setup engine tick).1.pos.t1Hit = engine.pos.t1Hit ∧
      ∀ task ∈ (TrapExit.settleTick setup engine tick).2, goesOn task = false := by
  refine ⟨fun whole => ?_, settleTick_goesOn tick⟩
  rw [settleTick_untrailed (by simp [whole])]
  exact checkStops_whole standard whole tick.ltp

/-! ### A round of the option loop -/

/-- The position part of a round. -/
def optionRound (frames : Frames) (setup : Setup) (slBuf : Rat) (book : Book) (tick : OptTick) :
    Outcome :=
  handleTick frames setup slBuf { book with bars := tick.store book.bars } tick.ltp tick.ts
    (book.engine.isOpen && tick.tracks book.engine.pos.leg)
    (fun trail => TrapExit.optTick setup book.engine (tick.exitTick trail))

theorem optionTick_round (running : book.optLoop = .running) (tick : OptTick) :
    optionTick frames setup slBuf book tick =
      (optionRound frames setup slBuf book tick).within (.option tick.ts) := if_pos running

section Round

variable {tick : OptTick}

/-- A round that does not trail the stop leaves a fresh book fresh. -/
theorem optionRound_fresh (fresh : Fresh book)
    (untrailed : ¬((book.engine.isOpen && tick.tracks book.engine.pos.leg) = true ∧
      TrailsAtOnce setup book.engine.pos tick.ltp))
    (unlocked : (optionRound frames setup slBuf book tick).book.engine.pos.floorLocked =
      book.engine.pos.floorLocked) :
    Fresh (optionRound frames setup slBuf book tick).book := by
  have marks : (optionRound frames setup slBuf book tick).book.marks = book.marks :=
    @handleTick_marks frames setup slBuf { book with bars := tick.store book.bars } _ _ _ _
      untrailed
  exact ⟨by rw [marks]; exact fresh.1, unlocked.trans fresh.2⟩

theorem optionRound_aware (aware : book.marks.entryTs.aware = true) :
    (optionRound frames setup slBuf book tick).book.marks.entryTs.aware = true :=
  @handleTick_aware frames setup slBuf { book with bars := tick.store book.bars } aware _ _ _ _

/-- The exits of a round, given those of the tick. -/
theorem optionRound_exits (running : book.optLoop = .running) {done : Engine × Option Task}
    (exits : exitsOf (optionTick frames setup slBuf book tick) = done) :
    (optionRound frames setup slBuf book tick).book.engine = done.1 ∧
      (optionRound frames setup slBuf book tick).task = done.2 := by
  rw [optionTick_round running, exitsOf_within] at exits
  exact ⟨congrArg Prod.fst exits, congrArg Prod.snd exits⟩

/-- A tick that takes T1 waits with the spot as stop, or settles after T1. -/
theorem reaching_keeps (standard : setup.noTargetTsl = false) (sane : Sane book tasks)
    (running : book.optLoop = .running) (isOpen : book.engine.isOpen = true)
    (tracks : tick.tracks book.engine.pos.leg = true)
    (reaches : ReachesT1 setup book.engine.pos tick.ltp) :
    KeepsT1 (optionRound frames setup slBuf book tick) := by
  obtain ⟨engine, task⟩ := @optionRound_exits frames setup slBuf book tick running _
    (optionTick_exits frames setup slBuf running isOpen tracks)
  rw [@checkTickExit_reaches setup book.engine ⟨tick.ltp, _⟩ reaches isOpen] at engine task
  by_cases sells : 0 < book.engine.pos.t1Qty
  · rw [if_pos sells] at engine task
    have untrailed : ¬TrailsAtOnce setup book.engine.pos tick.ltp := by
      simp [TrailsAtOnce, reaches.1, not_le.mpr sells]
    have fresh : Fresh (optionRound frames setup slBuf book tick).book :=
      optionRound_fresh (sane.before reaches.1) (fun both => untrailed both.2)
        (by rw [engine]; rfl)
    constructor
    case aware => exact optionRound_aware sane.aware
    case before => exact fun _ => fresh
    case pending =>
      rw [engine]
      exact fun _ _ _ => ⟨rfl, rfl, fresh⟩
  · rw [if_neg sells] at engine task
    obtain ⟨-, hit, plain⟩ := @settle_sane setup standard
      (TrapExit.recordHalf (halved book.engine reaches.1 tick.ltp)
        (halfExit book.engine.pos ⟨tick.ltp, _⟩) none) ⟨tick.ltp, _⟩
    constructor
    case aware => exact optionRound_aware sane.aware
    case before =>
      intro whole
      rw [engine, hit] at whole
      cases whole
    case pending =>
      intro other started going
      rw [task] at started
      rw [plain other started] at going
      cases going

/-- The other ticks of the position settle. -/
theorem settling_keeps (standard : setup.noTargetTsl = false) (sane : Sane book tasks)
    (running : book.optLoop = .running) (isOpen : book.engine.isOpen = true)
    (tracks : tick.tracks book.engine.pos.leg = true)
    (later : ¬ReachesT1 setup book.engine.pos tick.ltp) :
    KeepsT1 (optionRound frames setup slBuf book tick) := by
  obtain ⟨engine, task⟩ := @optionRound_exits frames setup slBuf book tick running _
    (optionTick_exits frames setup slBuf running isOpen tracks)
  rw [checkTickExit_settles later] at engine task
  obtain ⟨still, hit, plain⟩ := @settle_sane setup standard book.engine ⟨tick.ltp, _⟩
  constructor
  case aware => exact optionRound_aware sane.aware
  case before =>
    intro whole
    rw [engine, hit] at whole
    have untrailed : ¬TrailsAtOnce setup book.engine.pos tick.ltp := by
      simp [TrailsAtOnce, whole, later]
    exact optionRound_fresh (sane.before whole) (fun both => untrailed both.2)
      (by rw [engine, still whole])
  case pending =>
    intro other started going
    rw [task] at started
    rw [plain other started] at going
    cases going

/-- A tick of another contract, or without a position, leaves the engine. -/
theorem untracked_keeps (option : setup.htfSource = .option) (sane : Sane book tasks)
    (running : book.optLoop = .running)
    (untracked : ¬(book.engine.isOpen = true ∧ tick.tracks book.engine.pos.leg = true)) :
    KeepsT1 (optionRound frames setup slBuf book tick) := by
  obtain ⟨engine, task⟩ := @optionRound_exits frames setup slBuf book tick running _
    (optionTick_untracked frames setup slBuf option (fun all => untracked all.2))
  constructor
  case aware => exact optionRound_aware sane.aware
  case before =>
    intro whole
    rw [engine] at whole
    exact optionRound_fresh (sane.before whole)
      (fun both => untracked (Bool.and_eq_true _ _ ▸ both.1)) (by rw [engine])
  case pending =>
    rw [task]
    simp

theorem optionTick_sane (option : setup.htfSource = .option)
    (standard : setup.noTargetTsl = false) (sane : Sane book tasks) (tick : OptTick) :
    let done := optionTick frames setup slBuf book tick
    Sane done.1 (done.2.toList ++ tasks) := by
  intro done
  by_cases running : book.optLoop = .running
  · have empty : tasks.countP (fun sale => inOption sale.origin) = 0 := by
      have alone := sane.alone
      rw [running, if_neg (by decide)] at alone
      exact Nat.le_zero.mp alone
    have keeps : KeepsT1 (optionRound frames setup slBuf book tick) := by
      by_cases tracked : book.engine.isOpen = true ∧ tick.tracks book.engine.pos.leg = true
      · by_cases reaches : ReachesT1 setup book.engine.pos tick.ltp
        · exact reaching_keeps standard sane running tracked.1 tracked.2 reaches
        · exact settling_keeps standard sane running tracked.1 tracked.2 reaches
      · exact untracked_keeps option sane running tracked
    simp only [done, optionTick_round running]
    exact sane_within empty (none_pending sane empty) keeps
  · have idle : done = (book, none) := if_neg running
    rw [idle]
    exact sane

end Round

/-- In option mode an index tick changes nothing but its loop. -/
theorem indexTick_option (option : setup.htfSource = .option) (tick : IdxTick) :
    indexTick frames setup slBuf book tick = (book, none) := by
  have stored : storeCandle frames setup slBuf book tick = book := by
    rw [storeCandle]
    cases tick.closed with
    | none => rfl
    | some bar => exact if_neg (by simp [option])
  by_cases running : book.idxLoop = .running
  · have still (trail : TrapExit.Trail) : TrapExit.idxTick setup book.engine ⟨tick.ltp, trail⟩ =
        (book.engine, none) := if_neg (by simp [option])
    have unchecked : ¬((decide (setup.htfSource = .futures) && book.engine.isOpen &&
        decide (book.engine.pos.leg = .fut)) = true ∧
          TrailsAtOnce setup book.engine.pos tick.ltp) := by simp [option]
    rw [indexTick, if_pos running]
    simp only [stored]
    rw [handleTick, if_neg unchecked, still]
    simp only [Book.withEngine, Outcome.within, Outcome.loop, Option.isSome_none,
      Bool.false_eq_true, if_false, Option.map_none, ← running]
  · exact if_neg running

theorem sane_tail {sale : Sale} (sane : Sane book (sale :: tasks)) : Sane book tasks where
  aware := sane.aware
  alone := (List.sublist_cons_self sale tasks).countP_le.trans sane.alone
  before := sane.before
  pending other listed := sane.pending other (List.mem_cons_of_mem sale listed)

/-- A sale of T1 that is under way comes from the option loop and a tick. -/
theorem tickT1_of_goesOn {task : Task} (going : goesOn task = true) :
    ∃ tick, task.exit.after = .tickT1 tick := by
  rw [goesOn] at going
  cases after : task.exit.after with
  | close => simp [after] at going
  | optionT1 => simp [after] at going
  | tickT1 tick => exact ⟨tick, rfl⟩

theorem resumeTick_untrailed {task : Task} {ts : Stamp} {answer : Answer}
    (untrailed : ¬TrailsOn setup book.engine task answer) :
    resumeTick frames setup slBuf book task ts answer =
      book.withEngine (TrapExit.resumeExit setup book.engine task answer)
        (readsCleared book.engine task answer) := if_neg untrailed

/-- An answer that goes on with the tick of T1 settles after T1. -/
theorem trailing_keeps (standard : setup.noTargetTsl = false)
    (aware : book.marks.entryTs.aware = true) {task : Task} {ts : Stamp} {answer : Answer}
    (trailing : TrailsOn setup book.engine task answer) :
    KeepsT1 (resumeTick frames setup slBuf book task ts answer) := by
  obtain ⟨tick, after⟩ := tickT1_of_goesOn trailing.2.1
  obtain ⟨accepted, exit, orderId, settles⟩ :=
    @resumeTick_trailed frames setup slBuf book task tick after ts answer trailing
  obtain ⟨-, hit, plain⟩ := @settle_sane setup standard
    (TrapExit.recordHalf { book.engine with accepted := accepted } exit orderId) ⟨tick.ltp, _⟩
  rw [← settles] at hit plain
  constructor
  case aware =>
    rw [resumeTick, if_pos trailing]
    exact (congrArg Stamp.aware (updateTrailSl_marked _ _ _ _).entryTs).trans aware
  case before =>
    intro whole
    rw [whole] at hit
    exact absurd (trailing.2.2.2.symm.trans hit.symm) (by decide)
  case pending =>
    intro next started going
    rw [plain next started] at going
    cases going

/-- Any other answer leaves the sale of T1 waiting, or is to a sale of another kind. -/
theorem untrailed_keeps (standard : setup.noTargetTsl = false) {task : Task} {ts : Stamp}
    {answer : Answer} (sane : Sane book (⟨task, .option ts⟩ :: tasks))
    (untrailed : ¬TrailsOn setup book.engine task answer) :
    KeepsT1 (resumeTick frames setup slBuf book task ts answer) := by
  rw [resumeTick_untrailed untrailed]
  cases going : goesOn task with
  | true =>
    obtain ⟨-, hit, atSpot, fresh⟩ := sane.pending _ List.mem_cons_self going
    have waits : returns task answer = false := by
      rw [← Bool.not_eq_true]
      exact fun back => untrailed ⟨back, going, standard, hit⟩
    obtain ⟨next, waited, -⟩ := @resumeExit_waits setup book.engine _ _ waits
    rw [waited]
    exact ⟨sane.aware, fun _ => fresh, fun _ _ _ => ⟨hit, atSpot, fresh⟩⟩
  | false =>
    have steady := @resumeExit_steady setup book.engine _ going answer
    constructor
    case aware => exact sane.aware
    case before =>
      intro whole
      have fresh := sane.before (steady.t1Hit.symm.trans whole)
      exact ⟨fresh.1, steady.floorLocked.trans fresh.2⟩
    case pending =>
      intro next started later
      rw [steady.plain next started] at later
      cases later

/-- An answer to a sale of the option loop. -/
theorem resumeOption_sane (standard : setup.noTargetTsl = false) {task : Task} {ts : Stamp}
    (sane : Sane book (⟨task, .option ts⟩ :: tasks)) (answer : Answer) :
    Sane (resumeSale frames setup slBuf book ⟨task, .option ts⟩ answer).1
      ((resumeSale frames setup slBuf book ⟨task, .option ts⟩ answer).2.toList ++ tasks) := by
  have empty : tasks.countP (fun sale => inOption sale.origin) = 0 := by
    have alone := sane.alone
    rw [List.countP_cons_of_pos (by rfl)] at alone
    split at alone <;> omega
  have others := none_pending (sane_tail sane) empty
  by_cases trailing : TrailsOn setup book.engine task answer
  · exact sane_within empty others (trailing_keeps standard sane.aware trailing)
  · exact sane_within empty others (untrailed_keeps standard sane trailing)

/-- An answer to a sale that is not of the option loop. -/
theorem resumeOther_sane {sale : Sale} (sane : Sane book (sale :: tasks))
    (outside : inOption sale.origin = false) (answer : Answer) :
    Sane (resumeSale frames setup slBuf book sale answer).1
      ((resumeSale frames setup slBuf book sale answer).2.toList ++ tasks) := by
  have plain : goesOn sale.task = false := by
    rw [← Bool.not_eq_true]
    intro going
    exact absurd ((sane.pending sale List.mem_cons_self going).1.symm.trans outside) (by decide)
  have steady := @resumeExit_steady setup book.engine _ plain answer
  obtain ⟨task, origin⟩ := sale
  cases origin with
  | option ts => cases outside
  | index ts =>
    have untrailed : ¬TrailsOn setup book.engine task answer := fun trailing =>
      absurd (plain.symm.trans trailing.2.1) Bool.false_ne_true
    have same : resumeSale frames setup slBuf book ⟨task, .index ts⟩ answer =
        (book.withEngine (TrapExit.resumeExit setup book.engine task answer)
          (readsCleared book.engine task answer)).within (.index ts) :=
      congrArg (Outcome.within · (.index ts)) (resumeTick_untrailed untrailed)
    rw [same]
    apply sane_steady (sane_tail sane)
    · rfl
    · rfl
    · rwa [Prod.mk.eta, exitsOf_within]
    · simp [Outcome.within, inOption]
  | endOfDay =>
    have same : resumeSale frames setup slBuf book ⟨task, .endOfDay⟩ answer =
        (book.withEngine (TrapExit.resumeExit setup book.engine task answer) false).within
          .endOfDay := rfl
    rw [same]
    apply sane_steady (sane_tail sane)
    · rfl
    · rfl
    · rwa [Prod.mk.eta, exitsOf_within]
    · simp [Outcome.within, inOption]

end Keep

/-- Starts and answers keep a book sane. -/
theorem sane_pool (option : setup.htfSource = .option) (standard : setup.noTargetTsl = false) :
    Tasks.PoolInvariant (ticks frames setup slBuf) (fun _ _ _ => True) (fun _ _ _ _ => True)
      Sane := by
  constructor
  case unordered =>
    intro book tasks other permuted sane
    exact ⟨sane.aware, permuted.countP_eq _ ▸ sane.alone, sane.before, fun sale listed =>
      sane.pending sale (permuted.mem_iff.mpr listed)⟩
  case starts =>
    intro book tasks handler sane _
    cases handler with
    | optionTick tick => exact optionTick_sane option standard sane tick
    | indexTick tick =>
      simp only [ticks, startHandler, indexTick_option option]
      exact sane
    | endOfDay eodLtp =>
      apply sane_steady sane
      · rfl
      · rfl
      · rw [Prod.mk.eta]
        simp only [ticks, startHandler, endOfDay, exitsOf_within]
        exact eodSquareOff_steady eodLtp
      · simp [ticks, startHandler, endOfDay, Outcome.within, inOption]
  case resumes =>
    intro book others sale answer sane _
    cases inside : inOption sale.origin with
    | false => exact resumeOther_sane sane inside answer
    | true =>
      obtain ⟨task, origin⟩ := sale
      cases origin with
      | option ts => exact resumeOption_sane standard sane answer
      | index ts => cases inside
      | endOfDay => cases inside

/-! ## The laws of one event -/

/-- After T1 a call of the trailing stop does not lower it. -/
theorem trailOn_rises (option : setup.htfSource = .option) (book : Book) (pos : Position)
    (ts : Stamp) : pos.trailSl ≤ (trailOn frames setup slBuf book pos ts).trailSl :=
  updateTrailSl_rises pos (by simp [stopsAbove, trailSetup, option]) _ _ ts

theorem optionTick_rises (option : setup.htfSource = .option)
    (standard : setup.noTargetTsl = false) {book : Book}
    (hit : book.engine.pos.t1Hit = true) (tick : OptTick) :
    book.engine.pos.trailSl ≤
      (exitsOf (optionTick frames setup slBuf book tick)).1.pos.trailSl := by
  by_cases tracked : book.optLoop = .running ∧ book.engine.isOpen = true ∧
      tick.tracks book.engine.pos.leg = true
  · have later : ¬ReachesT1 setup book.engine.pos tick.ltp := fun reaches => by
      simp [reaches.1] at hit
    have trailing : TrailsAtOnce setup book.engine.pos tick.ltp := ⟨standard, Or.inl hit⟩
    rw [optionTick_exits frames setup slBuf tracked.1 tracked.2.1 tracked.2.2,
      checkTickExit_settles later, tickTrail, if_pos ⟨rfl, trailing⟩, trailedPos, if_neg later]
    exact settleTick_trailSl ⟨standard, hit⟩ tick.ltp (trailOn_rises option _ _ _)
  · rw [optionTick_untracked frames setup slBuf option tracked]

theorem resumeSale_rises (option : setup.htfSource = .option)
    (standard : setup.noTargetTsl = false) {book : Book} {tasks : List Sale} {sale : Sale}
    (sane : Sane book tasks) (listed : sale ∈ tasks) (hit : book.engine.pos.t1Hit = true)
    (answer : Answer) :
    book.engine.pos.trailSl ≤
      (exitsOf (resumeSale frames setup slBuf book sale answer)).1.pos.trailSl := by
  obtain ⟨task, origin⟩ := sale
  by_cases trailing : TrailsOn setup book.engine task answer
  · obtain ⟨inside, -⟩ := sane.pending _ listed trailing.2.1
    cases origin with
    | option ts =>
      obtain ⟨tick, after⟩ := tickT1_of_goesOn trailing.2.1
      obtain ⟨accepted, exit, orderId, settles⟩ :=
        @resumeTick_trailed frames setup slBuf book task tick after ts answer trailing
      rw [resumeSale, exitsOf_within, settles]
      exact @settleTick_trailSl setup
        (TrapExit.recordHalf { book.engine with accepted := accepted } exit orderId)
        ⟨standard, hit⟩ tick.ltp _ (trailOn_rises option book book.engine.pos ts)
    | index ts => cases inside
    | endOfDay => cases inside
  · have plain : (TrapExit.resumeExit setup book.engine task answer).1.pos.trailSl =
        book.engine.pos.trailSl := by
      cases going : goesOn task with
      | false => exact (resumeExit_steady going answer).trailSl
      | true =>
        have waits : returns task answer = false := by
          rw [← Bool.not_eq_true]
          exact fun back => trailing ⟨back, going, standard, hit⟩
        obtain ⟨next, waited, -⟩ := @resumeExit_waits setup book.engine _ _ waits
        rw [waited]
    cases origin with
    | option ts =>
      rw [resumeSale, exitsOf_within, resumeTick_untrailed trailing]
      exact le_of_eq plain.symm
    | index ts =>
      rw [resumeSale, exitsOf_within, resumeTick_untrailed trailing]
      exact le_of_eq plain.symm
    | endOfDay =>
      rw [resumeSale, exitsOf_within]
      exact le_of_eq plain.symm

theorem step_rises (option : setup.htfSource = .option) (standard : setup.noTargetTsl = false)
    (system : Tasks.System Book Sale) (sane : Sane system.shared system.tasks)
    (event : Tasks.Event Handler Answer) : Rises frames setup slBuf system event := by
  obtain ⟨book, tasks⟩ := system
  intro hit
  cases event with
  | start handler =>
    cases handler with
    | optionTick tick => exact optionTick_rises option standard hit tick
    | indexTick tick =>
      have still : (startHandler frames setup slBuf book (.indexTick tick)).1 = book := by
        rw [startHandler, indexTick_option option]
      exact le_of_eq (congrArg (fun after : Book => after.engine.pos.trailSl) still.symm)
    | endOfDay eodLtp => exact le_of_eq (eodSquareOff_steady eodLtp).trailSl.symm
  | resume index answer =>
    rw [Tasks.step]
    cases found : tasks[index]? with
    | none => exact le_refl _
    | some sale =>
      exact resumeSale_rises option standard sane (List.mem_of_getElem? found) hit answer

/-- The tick of T1 spares the rest exactly where its price clears the spot of the entry. -/
theorem step_spares_iff (option : setup.htfSource = .option)
    (standard : setup.noTargetTsl = false) (system : Tasks.System Book Sale)
    (sane : Sane system.shared system.tasks) (event : Tasks.Event Handler Answer) :
    SparesRest frames setup slBuf system event ↔ ClearsSpot frames setup system event := by
  cases event with
  | start handler =>
    cases handler with
    | optionTick tick =>
      exact forall_congr' (fun hits =>
        optionTick_spared_iff option sane.aware (sane.before hits.2.2.2.1) hits)
    | indexTick tick => exact Iff.rfl
    | endOfDay eodLtp => exact Iff.rfl
  | resume index answer =>
    apply forall₂_congr
    intro sale found
    have listed : sale ∈ system.tasks := List.mem_of_getElem? found
    obtain ⟨task, origin⟩ := sale
    cases after : task.exit.after with
    | close => simp [ClearsAnswered]
    | optionT1 => simp [ClearsAnswered]
    | tickT1 tick =>
      obtain ⟨inside, hit, atSpot, fresh⟩ := sane.pending _ listed (by simp [goesOn, after])
      cases origin with
      | option ts =>
        exact resumeSale_spared_iff option standard sane.aware fresh hit atSpot after ts answer
      | index ts => cases inside
      | endOfDay => cases inside

end Book

/-- What an entry leaves: a whole position without marks, in a running loop. -/
structure Entered (book : Book) : Prop where
  aware : book.marks.entryTs.aware = true
  whole : book.engine.pos.t1Hit = false
  fresh : Fresh book
  running : book.optLoop = .running

/-- In every run from an entry in option mode: the tick of T1 leaves the stop at or below
its price and spares the rest of the position, and from then on the stop does not fall,
exactly when the price of that tick clears the spot of the entry. -/
theorem t1_spares_iff (frames : Frames) (setup : Setup) (slBuf : Rat)
    (option : setup.htfSource = .option) (standard : setup.noTargetTsl = false) (book : Book)
    (entered : Entered book) (events : List (Tasks.Event Handler Answer)) :
    Runs.Along (Tasks.step (ticks frames setup slBuf)) (Spared frames setup slBuf)
        ⟨book, []⟩ events ↔
      Runs.Along (Tasks.step (ticks frames setup slBuf)) (ClearsSpot frames setup)
        ⟨book, []⟩ events := by
  have initially : Sane book [] :=
    ⟨entered.aware, Nat.zero_le _, fun _ => entered.fresh, by simp⟩
  exact @Runs.along_congr _ _ (Tasks.step (ticks frames setup slBuf)) _ _
    (fun system => Sane system.shared system.tasks)
    (fun system event sane =>
      Tasks.pool_step (sane_pool option standard) system event sane
        (Tasks.guarded_always system event))
    (fun system event sane =>
      (and_iff_left (step_rises option standard system sane event)).trans
        (step_spares_iff option standard system sane event))
    ⟨book, []⟩ events initially

/-! ## A call of the index -/

open TrailSafety

def callSetup : Setup where
  und := "NIFTY"
  expiry := "25JAN"
  exchange := "NFO"
  clientId := "C1"
  htfSource := .option
  noTargetTsl := false
  profitFloor := 0

/-- Fifty calls bought at 100 with their T1 at 130, at some spot. -/
def callEntered (spot : Rat) : Book where
  engine :=
    { pos :=
        { leg := .ce1
          optType := .ce
          strike := 24000
          spotAtEntry := spot
          entryPrice := 100
          slPrice := 90
          trailSl := 90
          t1Price := 130
          totalQty := 50
          t1Qty := 25
          remainingQty := 50
          orderIdEntry := "E1"
          htfZone := { refTs := 1, zoneHigh := 100, zoneLow := 92, sl := 130 }
          counted := by decide
          halved := by decide
          balanced := by decide }
      isOpen := true
      sweepWatch := none
      trades := []
      accepted := [] }
  marks := { entryTs := morning (-1) }
  bars := fun _ => []

/-- The premium reaches T1, and the half is sold. -/
def callT1 : List (Tasks.Event Handler Answer) :=
  [.start (.optionTick ⟨131, morning 14, true, false, false, false, fun _ => none⟩),
    .resume 0 (.broker true), .resume 0 (.placed "X1")]

theorem callEntered_entered (spot : Rat) : Entered (callEntered spot) :=
  ⟨rfl, rfl, ⟨rfl, rfl⟩, rfl⟩

theorem t1_spares_at_a_low_spot :
    Runs.Along (Tasks.step (ticks orderedFrames callSetup 2)) (Spared orderedFrames callSetup 2)
      ⟨callEntered 120, []⟩ callT1 :=
  (t1_spares_iff orderedFrames callSetup 2 rfl rfl (callEntered 120) (callEntered_entered 120)
    callT1).mpr (by decide)

/-- At a spot of 24000 the stop is 24000, and the tick of T1 at 131 sells the rest. -/
theorem t1_stops_out_the_rest :
    let step := Tasks.step (ticks orderedFrames callSetup 2)
    let sold := Runs.run step ⟨callEntered 24000, []⟩ callT1
    sold.shared.engine.pos.trailSl = 24000 ∧
      sold.tasks = [⟨.login ⟨25, 24000, .trailSl, 131, .close⟩, .option (morning 14)⟩] ∧
      ¬Runs.Along step (Spared orderedFrames callSetup 2) ⟨callEntered 24000, []⟩ callT1 := by
  refine ⟨by decide, by decide, ?_⟩
  intro along
  have spared := along.1.1 (by decide)
  exact absurd spared.1 (by decide)

end OptionChain.T1Stops
