import OptionChain.ExitConservation
import OptionChain.TrailSafety
import OptionChain.TrapStops

/-!
# Whether the stop only tightens, and closes what crosses it

Both functions that trail the stop move it towards the price only, whatever the
bars. T1 sets it to the spot of the entry from wherever it was, the exits read it
only after T1 and with targets, and an error of the trailing stop ends the loop
that reads it. `stop_protects_iff` says that nothing else can go wrong.
-/

namespace OptionChain.StopTightening

open Broker Timestamps TrapPosition TrapTrail TrapStops
open TrapExit (Setup Engine Task Answer OptionTick Exit)

/-- A stop moves towards the price: up below it, down above it. -/
def Tightens (optType : OptType) (old new : Rat) : Prop :=
  match optType with
  | .ce => old ≤ new
  | .pe => new ≤ old

/-- The price of the future has reached a stop. -/
def Crossed (optType : OptType) (stop ltp : Rat) : Prop :=
  match optType with
  | .ce => ltp ≤ stop
  | .pe => stop ≤ ltp

instance (optType : OptType) (old new : Rat) : Decidable (Tightens optType old new) :=
  match optType with
  | .ce => inferInstanceAs (Decidable (old ≤ new))
  | .pe => inferInstanceAs (Decidable (new ≤ old))

instance (optType : OptType) (stop ltp : Rat) : Decidable (Crossed optType stop ltp) :=
  match optType with
  | .ce => inferInstanceAs (Decidable (ltp ≤ stop))
  | .pe => inferInstanceAs (Decidable (stop ≤ ltp))

@[simp] theorem tightens_refl (optType : OptType) (stop : Rat) : Tightens optType stop stop := by
  cases optType with
  | ce => exact le_refl stop
  | pe => exact le_refl stop

theorem tightens_trans {optType : OptType} {first second third : Rat}
    (earlier : Tightens optType first second) (later : Tightens optType second third) :
    Tightens optType first third := by
  cases optType with
  | ce => exact le_trans (a := first) earlier later
  | pe => exact le_trans (a := third) later earlier

/-- What has crossed a stop has crossed a tighter one. -/
theorem crossed_tighter {optType : OptType} {old new ltp : Rat}
    (tighter : Tightens optType old new) (crossed : Crossed optType old ltp) :
    Crossed optType new ltp := by
  cases optType with
  | ce => exact le_trans (a := ltp) crossed tighter
  | pe => exact le_trans (a := new) tighter crossed

/-! ## Where the stop is trailed -/

section Trail

variable {frames : Frames} {setup : TrailSetup}

/-- What a call leaves of the marks: the entry keeps its timestamp, and the last bar is
the old one or a timestamp. -/
structure Marked (marks left : TrailMarks) : Prop where
  entryTs : left.entryTs = marks.entryTs
  last5m : left.last5m = marks.last5m ∨ ∃ at5m, left.last5m = .stamp at5m

/-- A call ends early with the stop as it was, or in the state machine with the traps that
it has registered. -/
theorem updateTrailSl_outcome (pos : Position) (bars : List StoredBar) (marks : TrailMarks)
    (ts : Stamp) :
    (∃ left error, updateTrailSl frames setup pos bars marks ts = ⟨left, pos.trailSl, error⟩ ∧
      Marked marks left) ∨
    ∃ watched bar5m, updateTrailSl frames setup pos bars marks ts =
        advanceStop setup pos bars watched bar5m ∧ Marked marks watched ∧
      ∃ df5, watched.trailTraps = (registerTraps marks.entryTs pos.entryPrice
        (marks.trailTraps.map TrailTrap.key) (frameTraps df5) marks.trailTraps).1 := by
  have same : Marked marks marks := ⟨rfl, Or.inl rfl⟩
  have stamped : Marked marks { marks with last5m := .stamp (ts.floor fiveMinutes) } :=
    ⟨rfl, Or.inr ⟨_, rfl⟩⟩
  rw [updateTrailSl]
  cases seen marks.last5m (ts.floor fiveMinutes) with
  | error error => exact Or.inl ⟨_, _, rfl, same⟩
  | ok worked =>
    cases worked with
    | true => exact Or.inl ⟨_, _, rfl, same⟩
    | false =>
      by_cases none : bars = []
      · simp only [none, if_true]
        exact Or.inl ⟨_, _, rfl, stamped⟩
      · simp only [none, if_false]
        cases frames.fiveMinutes bars with
        | error error => exact Or.inl ⟨_, _, rfl, stamped⟩
        | ok df5 =>
          by_cases short : df5.length < 3
          · simp only [short, if_true]
            exact Or.inl ⟨_, _, rfl, stamped⟩
          · simp only [short, if_false]
            cases (registerTraps marks.entryTs pos.entryPrice
              (marks.trailTraps.map TrailTrap.key) (frameTraps df5) marks.trailTraps).2 with
            | some error => exact Or.inl ⟨_, _, rfl, rfl, Or.inr ⟨_, rfl⟩⟩
            | none => exact Or.inr ⟨_, _, rfl, ⟨rfl, Or.inr ⟨_, rfl⟩⟩, df5, rfl⟩

/-- The state machine keeps the timestamp of the entry and the last bar. -/
theorem advanceStop_marked (pos : Position) (bars : List StoredBar) {marks : TrailMarks}
    {old : TrailMarks} (marked : Marked old marks) (bar5m : Stamp) :
    Marked old (advanceStop setup pos bars marks bar5m).marks := by
  unfold advanceStop
  cases bucketOf bar5m (bars.drop (bars.length - 15)) with
  | error error => exact marked
  | ok bucket =>
    by_cases empty : bucket = []
    · simpa only [if_pos empty] using marked
    · simp only [if_neg empty]
      exact ⟨marked.entryTs, marked.last5m⟩

theorem updateTrailSl_marked (pos : Position) (bars : List StoredBar) (marks : TrailMarks)
    (ts : Stamp) : Marked marks (updateTrailSl frames setup pos bars marks ts).marks := by
  obtain ⟨left, error, ended, marked⟩ | ⟨watched, bar5m, ended, marked, -⟩ :=
    @updateTrailSl_outcome frames setup pos bars marks ts
  · rw [ended]
    exact marked
  · rw [ended]
    exact advanceStop_marked pos bars marked bar5m

/-- Before T1 a candle moves the stop towards the price only. -/
theorem futuresStop_tightens (pos : Position)
    (trapped : List (TrapScanner.Entry TrapScanner.Trigger)) :
    Tightens pos.optType pos.trailSl (futuresStop setup pos trapped) := by
  rw [futuresStop]
  cases pos.optType with
  | ce =>
    simp only [Tightens]
    split
    · exact le_refl _
    · split <;> grind
  | pe =>
    simp only [Tightens]
    split
    · exact le_refl _
    · split <;> grind

theorem updateFuturesTsl_tightens (pos : Position) (bars : List StoredBar) (today : Int) :
    Tightens pos.optType pos.trailSl (updateFuturesTsl frames setup pos bars today) := by
  rw [updateFuturesTsl]
  by_cases short : (barsOf today bars).length < 3
  · simp [short]
  · simp only [short, if_false]
    cases frames.minute ((barsOf today bars).drop ((barsOf today bars).length - 100)) with
    | error error => exact tightens_refl pos.optType pos.trailSl
    | ok df => exact futuresStop_tightens pos _

section Futures

variable (futures : setup.htfSource = .futures)

include futures

/-- A confirmed trap replaces the stop only by a tighter one. -/
theorem better_tightens {optType : OptType} {newSl trailSl : Rat}
    (nearer : better setup optType newSl trailSl) : Tightens optType trailSl newSl := by
  cases optType with
  | ce =>
    rw [better, if_neg (by simp [stopsAbove])] at nearer
    exact le_of_lt nearer
  | pe =>
    rw [better, if_pos ⟨futures, rfl⟩] at nearer
    exact le_of_lt nearer

theorem advanceTrap_tightens (optType : OptType) (barHi barLo : Rat) (trap : TrailTrap)
    (trailSl : Rat) :
    Tightens optType trailSl (advanceTrap setup optType barHi barLo trap trailSl).2 := by
  rw [advanceTrap]
  cases trap.state with
  | watching => simp
  | squeezed => simp
  | confirmed => simp
  | pulledBack =>
    by_cases again : trap.zoneHigh ≤ barHi
    · by_cases nearer : better setup optType (confirmedSl setup optType trap.zoneTrigger) trailSl
      · simpa [again, nearer] using better_tightens futures nearer
      · simp [again, nearer]
    · simp [again]

theorem advanceTraps_tightens (optType : OptType) (barHi barLo : Rat) (traps : List TrailTrap)
    (trailSl : Rat) :
    Tightens optType trailSl (advanceTraps setup optType barHi barLo traps trailSl).2 := by
  induction traps generalizing trailSl with
  | nil => exact tightens_refl optType trailSl
  | cons trap rest inductionHypothesis =>
    rw [advanceTraps]
    exact tightens_trans (advanceTrap_tightens futures optType barHi barLo trap trailSl)
      (inductionHypothesis _)

theorem advanceStop_tightens (pos : Position) (bars : List StoredBar) (marks : TrailMarks)
    (bar5m : Stamp) :
    Tightens pos.optType pos.trailSl (advanceStop setup pos bars marks bar5m).trailSl := by
  unfold advanceStop
  cases bucketOf bar5m (bars.drop (bars.length - 15)) with
  | error error => exact tightens_refl pos.optType pos.trailSl
  | ok bucket =>
    by_cases empty : bucket = []
    · simp [empty]
    · simpa [empty] using advanceTraps_tightens futures pos.optType _ _ marks.trailTraps
        pos.trailSl

/-- After T1 a tick moves the stop towards the price only. -/
theorem updateTrailSl_tightens (pos : Position) (bars : List StoredBar) (marks : TrailMarks)
    (ts : Stamp) :
    Tightens pos.optType pos.trailSl (updateTrailSl frames setup pos bars marks ts).trailSl := by
  obtain ⟨left, error, ended, -⟩ | ⟨watched, bar5m, ended, -⟩ :=
    @updateTrailSl_outcome frames setup pos bars marks ts
  · rw [ended]
    exact tightens_refl pos.optType pos.trailSl
  · rw [ended]
    exact advanceStop_tightens futures pos bars watched bar5m

end Futures

end Trail

/-! ## What the exits leave of the stop -/

/-- The position is closed, or the sale of all that remains is under way. -/
def closes (done : Engine × Option Task) : Bool :=
  !done.1.isOpen || done.2.any (fun task => task.exit.full)

/-- The same contract with a certain stop, and no T1 of an index tick under way. -/
structure Leaves (pos : Position) (trailSl : Rat) (done : Engine × Option Task) : Prop where
  leg : done.1.pos.leg = pos.leg
  optType : done.1.pos.optType = pos.optType
  trailSl : done.1.pos.trailSl = trailSl
  plain : ∀ task ∈ done.2, ∀ tick, task.exit.after ≠ .tickT1 tick

section Exits

variable {setup : Setup} {engine : Engine} {pos : Position} {trailSl : Rat}

/-- A handler that only waits or does nothing. -/
theorem leaves_none {other : Engine} (leg : other.pos.leg = pos.leg)
    (optType : other.pos.optType = pos.optType) (stop : other.pos.trailSl = trailSl) :
    Leaves pos trailSl (other, none) :=
  ⟨leg, optType, stop, by simp⟩

theorem beginClose_closes {exit : Exit} (full : exit.after = .close) :
    closes (TrapExit.beginClose engine exit) = true := by
  rw [TrapExit.beginClose]
  by_cases atOnce : TrapExit.returnsAtOnce engine exit = true
  · simp [atOnce, closes, TrapExit.closeOut]
  · simp [atOnce, closes, TrapExit.Exit.full, full]

theorem beginClose_leaves {exit : Exit} (full : exit.after = .close) :
    Leaves engine.pos engine.pos.trailSl (TrapExit.beginClose engine exit) := by
  rw [TrapExit.beginClose]
  by_cases atOnce : TrapExit.returnsAtOnce engine exit = true
  · rw [if_pos atOnce]
    exact leaves_none rfl rfl rfl
  · rw [if_neg atOnce]
    exact ⟨rfl, rfl, rfl, by simp [full]⟩

/-- The floor is no part of the stop. -/
theorem lockFloor_same (pos : Position) (ltp : Rat) :
    TrapExit.lockFloor setup pos ltp = pos ∨
      TrapExit.lockFloor setup pos ltp = { pos with floorLocked := true } := by
  rw [TrapExit.lockFloor]
  split
  · exact Or.inr rfl
  · exact Or.inl rfl

theorem leaves_lockFloor {ltp : Rat} {done : Engine × Option Task}
    (left : Leaves (TrapExit.lockFloor setup pos ltp)
      (TrapExit.lockFloor setup pos ltp).trailSl done) : Leaves pos pos.trailSl done := by
  obtain same | same := @lockFloor_same setup pos ltp
  · rwa [same] at left
  · rw [same] at left
    exact ⟨left.leg, left.optType, left.trailSl, left.plain⟩

theorem checkStops_leaves (ltp : Rat) :
    Leaves engine.pos engine.pos.trailSl (TrapExit.checkStops setup engine ltp) := by
  let locked : Engine := { engine with pos := TrapExit.lockFloor setup engine.pos ltp }
  apply @leaves_lockFloor setup _ ltp _
  rw [TrapExit.checkStops]
  split
  · exact @beginClose_leaves locked _ rfl
  · split
    · exact @beginClose_leaves locked _ rfl
    · exact leaves_none rfl rfl rfl

theorem slHit_lockFloor (pos : Position) (ltp : Rat) :
    TrapExit.slHit setup (TrapExit.lockFloor setup pos ltp) ltp = TrapExit.slHit setup pos ltp := by
  obtain same | same := @lockFloor_same setup pos ltp
  · rw [same]
  · rw [same]
    rfl

theorem slHit_iff (futures : setup.htfSource = .futures) (pos : Position) (ltp : Rat) :
    TrapExit.slHit setup pos ltp = true ↔
      Crossed pos.optType (TrapExit.activeSl setup pos) ltp := by
  rw [TrapExit.slHit]
  cases side : pos.optType with
  | ce => simp [Crossed]
  | pe => simp [futures, Crossed]

/-- The checks close a position exactly where the floor breaks or the stop is hit. -/
theorem checkStops_closes_iff_hit (ltp : Rat) (isOpen : engine.isOpen = true) :
    closes (TrapExit.checkStops setup engine ltp) = true ↔
      TrapExit.floorBroken setup (TrapExit.lockFloor setup engine.pos ltp) ltp = true ∨
        TrapExit.slHit setup engine.pos ltp = true := by
  rw [← slHit_lockFloor, TrapExit.checkStops]
  cases floor : TrapExit.floorBroken setup (TrapExit.lockFloor setup engine.pos ltp) ltp with
  | true => simp [beginClose_closes]
  | false =>
    cases hit : TrapExit.slHit setup (TrapExit.lockFloor setup engine.pos ltp) ltp with
    | true => simp [beginClose_closes]
    | false => simp [closes, isOpen]

/-- In futures mode the stop is hit where it is crossed. -/
theorem checkStops_closes_iff (futures : setup.htfSource = .futures) (ltp : Rat)
    (isOpen : engine.isOpen = true) :
    closes (TrapExit.checkStops setup engine ltp) = true ↔
      TrapExit.floorBroken setup (TrapExit.lockFloor setup engine.pos ltp) ltp = true ∨
        Crossed engine.pos.optType (TrapExit.activeSl setup engine.pos) ltp := by
  rw [checkStops_closes_iff_hit ltp isOpen, slHit_iff futures]

/-- T1 of an option tick. -/
def TakesT1 (pos : Position) (tick : OptionTick) : Prop :=
  pos.t1Hit = false ∧ 0 < pos.t1Price ∧ pos.t1Price ≤ tick.ltp ∧
    tick.nearLeg pos.optType = true

instance (pos : Position) (tick : OptionTick) : Decidable (TakesT1 pos tick) :=
  inferInstanceAs (Decidable (_ ∧ _ ∧ _ ∧ _))

theorem beginHalf_leaves {exit : Exit} (option : exit.after = .optionT1) :
    Leaves engine.pos engine.pos.trailSl (TrapExit.beginHalf setup engine exit) := by
  rw [TrapExit.beginHalf]
  by_cases atOnce : TrapExit.returnsAtOnce engine exit = true
  · rw [if_pos atOnce, TrapExit.halfDone, option]
    exact leaves_none rfl rfl rfl
  · rw [if_neg atOnce]
    exact ⟨rfl, rfl, rfl, by simp [option]⟩

/-- T1 leaves the spot of the entry as stop, every other option tick the old one. -/
theorem optTick_leaves (futures : setup.htfSource = .futures) (leg : engine.pos.leg = .fut)
    (tick : OptionTick) :
    Leaves engine.pos
      (if engine.isOpen = true ∧ TakesT1 engine.pos tick then engine.pos.spotAtEntry
        else engine.pos.trailSl)
      (TrapExit.optTick setup engine tick) := by
  rw [TrapExit.optTick]
  cases isOpen : engine.isOpen with
  | false =>
    simp only [Bool.false_eq_true, if_false, false_and]
    exact leaves_none rfl rfl rfl
  | true =>
    have untracked : tick.tracks .fut = false := rfl
    simp only [if_true, leg, untracked, Bool.false_eq_true, if_false, futures, true_and, TakesT1]
    by_cases due : engine.pos.t1Hit = false ∧ 0 < engine.pos.t1Price ∧
        tick.nearLeg engine.pos.optType = true
    · obtain ⟨whole, priced, near⟩ := due
      have positive : engine.pos.t1Price ≠ 0 := ne_of_gt priced
      simp only [whole, priced, near, and_true, true_and, if_true, TrapExit.checkOptionT1,
        dite_true]
      by_cases reached : engine.pos.t1Price ≤ tick.ltp
      · rw [if_pos reached, if_pos ⟨positive, reached⟩]
        have left := @beginHalf_leaves setup { engine with pos := engine.pos.takeT1 whole }
          ⟨engine.pos.t1Qty, engine.pos.t1Price, .t1, tick.ltp, .optionT1⟩ rfl
        exact ⟨left.leg, left.optType, left.trailSl, left.plain⟩
      · rw [if_neg reached, if_neg (by simp [reached])]
        exact leaves_none rfl rfl rfl
    · rw [if_neg due, if_neg (fun taken => due ⟨taken.1, taken.2.1, taken.2.2.2⟩)]
      exact leaves_none rfl rfl rfl

theorem eodSquareOff_leaves (eodLtp : Rat) :
    Leaves engine.pos engine.pos.trailSl (TrapExit.eodSquareOff engine eodLtp) := by
  rw [TrapExit.eodSquareOff]
  split
  · exact beginClose_leaves rfl
  · exact leaves_none rfl rfl rfl

/-- What an exit does after its answer leaves the stop, unless it goes on with an
index tick. -/
theorem returned_leaves {exit : Exit} (orderId : Option String)
    (plain : ∀ tick, exit.after ≠ .tickT1 tick) :
    Leaves engine.pos engine.pos.trailSl (TrapExit.returned setup engine exit orderId) := by
  rw [TrapExit.returned]
  cases after : exit.after with
  | close => exact leaves_none rfl rfl rfl
  | optionT1 =>
    simp only [TrapExit.halfDone, after]
    exact leaves_none rfl rfl rfl
  | tickT1 tick => exact absurd after (plain tick)

theorem resumeExit_leaves (task : Task) (answer : TrapExit.Answer)
    (plain : ∀ tick, task.exit.after ≠ .tickT1 tick) :
    Leaves engine.pos engine.pos.trailSl (TrapExit.resumeExit setup engine task answer) := by
  cases task with
  | login exit =>
    cases answer with
    | broker ready =>
      cases ready with
      | false => exact returned_leaves none plain
      | true =>
        rw [TrapExit.resumeExit, if_pos rfl]
        split
        · exact ⟨rfl, rfl, rfl, by simpa using plain⟩
        · exact leaves_none rfl rfl rfl
    | placed orderId => exact ⟨rfl, rfl, rfl, by simpa [TrapExit.resumeExit] using plain⟩
    | raised => exact ⟨rfl, rfl, rfl, by simpa [TrapExit.resumeExit] using plain⟩
  | placing exit request =>
    cases answer with
    | broker ready => exact ⟨rfl, rfl, rfl, by simpa [TrapExit.resumeExit] using plain⟩
    | placed orderId =>
      have left := @returned_leaves setup
        { engine with accepted := engine.accepted ++ [request] } _ (some orderId) plain
      exact ⟨left.leg, left.optType, left.trailSl, left.plain⟩
    | raised => exact returned_leaves none plain

theorem settleTick_raised (trails : setup.noTargetTsl = false ∧ engine.pos.t1Hit = true)
    (ltp : Rat) : TrapExit.settleTick setup engine ⟨ltp, .raised⟩ = (engine, none) := by
  simp [TrapExit.settleTick, trails]

/-- The engine with its stop moved. -/
def restop (engine : Engine) (stop : Rat) : Engine :=
  { engine with pos := { engine.pos with trailSl := stop } }

theorem settleTick_moved (trails : setup.noTargetTsl = false ∧ engine.pos.t1Hit = true)
    (ltp stop : Rat) :
    TrapExit.settleTick setup engine ⟨ltp, .moved stop⟩ =
      TrapExit.checkStops setup (restop engine stop) ltp := by
  simp [TrapExit.settleTick, trails, restop]

theorem settleTick_untrailed (untrailed : ¬(setup.noTargetTsl = false ∧ engine.pos.t1Hit = true))
    (tick : TrapExit.Tick) :
    TrapExit.settleTick setup engine tick = TrapExit.checkStops setup engine tick.ltp := by
  rw [TrapExit.settleTick, if_neg]
  simpa using untrailed

/-- A futures position takes no T1 on a tick of the future. -/
theorem idxTick_settles (futures : setup.htfSource = .futures) (leg : engine.pos.leg = .fut)
    (isOpen : engine.isOpen = true) (tick : TrapExit.Tick) :
    TrapExit.idxTick setup engine tick = TrapExit.settleTick setup engine tick := by
  rw [TrapExit.idxTick, if_pos ⟨futures, isOpen, leg⟩, TrapExit.checkTickExit]
  split
  · rw [if_neg (by simp [futures])]
  · rfl

/-- The stop that is active after T1 with targets, and the one that is otherwise. -/
theorem activeSl_trailed (trails : setup.noTargetTsl = false ∧ pos.t1Hit = true) :
    TrapExit.activeSl setup pos = pos.trailSl := by
  simp [TrapExit.activeSl, trails]

theorem activeSl_untrailed (untrailed : ¬(setup.noTargetTsl = false ∧ pos.t1Hit = true)) :
    TrapExit.activeSl setup pos = pos.slPrice := by
  rw [TrapExit.activeSl]
  cases targets : setup.noTargetTsl with
  | true => rfl
  | false =>
    have whole : pos.t1Hit = false := by simpa [targets] using untrailed
    simp [whole]

/-- After T1 with targets the checks close what crosses the stop. -/
theorem checkStops_closes_crossed (futures : setup.htfSource = .futures)
    (trails : setup.noTargetTsl = false ∧ engine.pos.t1Hit = true) (isOpen : engine.isOpen = true)
    {ltp : Rat} (crossed : Crossed engine.pos.optType engine.pos.trailSl ltp) :
    closes (TrapExit.checkStops setup engine ltp) = true := by
  rw [checkStops_closes_iff futures ltp isOpen, activeSl_trailed trails]
  exact Or.inr crossed

end Exits

/-! ## Index ticks -/

section Ticks

variable {frames : Frames} {setup : Setup} {slBuf : Rat} {book : Book}
  (futures : setup.htfSource = .futures) (leg : book.engine.pos.leg = .fut)

include futures leg

/-- A tick that a running loop hands to an open position. -/
theorem indexTick_settles (looping : book.looping = true) (isOpen : book.engine.isOpen = true)
    (ltp : Rat) (ts : Stamp) :
    let ticked := indexTick frames setup slBuf book ltp ts
    (ticked.1.engine, ticked.2) = TrapExit.settleTick setup book.engine
      ⟨ltp, trailOutcome (trailOn frames setup slBuf book ts)⟩ := by
  simp only [indexTick, if_pos (And.intro futures looping), idxTick_settles futures leg isOpen]
  split
  · rfl
  · rfl

omit futures leg in
/-- A loop that has ended, and a closed book. -/
theorem indexTick_idle (idle : book.looping = false ∨ book.engine.isOpen = false)
    (ltp : Rat) (ts : Stamp) : indexTick frames setup slBuf book ltp ts = (book, none) := by
  rw [indexTick]
  by_cases runs : setup.htfSource = .futures ∧ book.looping = true
  · have isClosed : book.engine.isOpen = false := by simpa [runs.2] using idle
    have still (tick : TrapExit.Tick) : TrapExit.idxTick setup book.engine tick =
        (book.engine, none) := by simp [TrapExit.idxTick, isClosed]
    have untrailed : ¬Trails setup book.engine := by simp [Trails, isClosed]
    simp only [if_pos runs, if_neg untrailed, still]
    rfl
  · rw [if_neg runs]

/-- A tick after T1 whose trailing stop gets through, and one whose does not. -/
theorem indexTick_trailed (looping : book.looping = true) (isOpen : book.engine.isOpen = true)
    (trails : setup.noTargetTsl = false ∧ book.engine.pos.t1Hit = true) (ltp : Rat) (ts : Stamp)
    (fine : (trailOn frames setup slBuf book ts).error = none) :
    let ticked := indexTick frames setup slBuf book ltp ts
    (ticked.1.engine, ticked.2) = TrapExit.checkStops setup
      (restop book.engine (trailOn frames setup slBuf book ts).trailSl) ltp := by
  intro ticked
  rw [indexTick_settles futures leg looping isOpen, trailOutcome, if_pos fine,
    settleTick_moved trails]

theorem indexTick_raised (looping : book.looping = true) (isOpen : book.engine.isOpen = true)
    (trails : setup.noTargetTsl = false ∧ book.engine.pos.t1Hit = true) (ltp : Rat) (ts : Stamp)
    (failed : ¬(trailOn frames setup slBuf book ts).error = none) :
    let ticked := indexTick frames setup slBuf book ltp ts
    (ticked.1.engine, ticked.2) = (book.engine, none) := by
  intro ticked
  rw [indexTick_settles futures leg looping isOpen, trailOutcome, if_neg failed,
    settleTick_raised trails]

theorem indexTick_untrailed (looping : book.looping = true) (isOpen : book.engine.isOpen = true)
    (untrailed : ¬(setup.noTargetTsl = false ∧ book.engine.pos.t1Hit = true)) (ltp : Rat)
    (ts : Stamp) :
    let ticked := indexTick frames setup slBuf book ltp ts
    (ticked.1.engine, ticked.2) = TrapExit.checkStops setup book.engine ltp := by
  intro ticked
  rw [indexTick_settles futures leg looping isOpen, settleTick_untrailed untrailed]

/-- A tick of the future leaves the stop where it was or tighter. -/
theorem indexTick_leaves (ltp : Rat) (ts : Stamp) :
    let ticked := indexTick frames setup slBuf book ltp ts
    ∃ stop, Tightens book.engine.pos.optType book.engine.pos.trailSl stop ∧
      Leaves book.engine.pos stop (ticked.1.engine, ticked.2) := by
  intro ticked
  by_cases idle : book.looping = false ∨ book.engine.isOpen = false
  · refine ⟨book.engine.pos.trailSl, tightens_refl _ _, ?_⟩
    rw [show ticked = (book, none) from indexTick_idle idle ltp ts]
    exact leaves_none rfl rfl rfl
  · obtain ⟨looping, isOpen⟩ : book.looping = true ∧ book.engine.isOpen = true := by
      simpa using idle
    by_cases trails : setup.noTargetTsl = false ∧ book.engine.pos.t1Hit = true
    · by_cases fine : (trailOn frames setup slBuf book ts).error = none
      · rw [indexTick_trailed futures leg looping isOpen trails ltp ts fine]
        have left := @checkStops_leaves setup
          (restop book.engine (trailOn frames setup slBuf book ts).trailSl) ltp
        exact ⟨_, updateTrailSl_tightens futures _ _ _ _,
          left.leg, left.optType, left.trailSl, left.plain⟩
      · rw [indexTick_raised futures leg looping isOpen trails ltp ts fine]
        exact ⟨_, tightens_refl _ _, leaves_none rfl rfl rfl⟩
    · rw [indexTick_untrailed futures leg looping isOpen trails]
      exact ⟨_, tightens_refl _ _, checkStops_leaves ltp⟩

end Ticks

/-! ## Runs of the book -/

/-- A position on the future, its entry with a zone, and no T1 of an index tick. -/
structure OnFuture (book : Book) (tasks : List Task) : Prop where
  leg : book.engine.pos.leg = .fut
  aware : book.marks.entryTs.aware = true
  plain : ∀ task ∈ tasks, ∀ tick, task.exit.after ≠ .tickT1 tick

section Book

variable (frames : Frames) (setup : Setup) (slBuf : Rat)

/-- A tick has closed the position, if it has crossed its stop. -/
def ClosedBy (book : Book) (ltp : Rat) (ticked : Book × Option Task) : Prop :=
  book.engine.isOpen = true →
    Crossed book.engine.pos.optType ticked.1.engine.pos.trailSl ltp →
      closes (ticked.1.engine, ticked.2) = true

instance (book : Book) (ltp : Rat) (ticked : Book × Option Task) :
    Decidable (ClosedBy book ltp ticked) := inferInstanceAs (Decidable (_ → _ → _))

/-- A tick of the future closes a position whose stop it has crossed. -/
def Closed (book : Book) : Tasks.Event Handler Answer → Prop
  | .start (.indexTick ltp ts) => ClosedBy book ltp (indexTick frames setup slBuf book ltp ts)
  | _ => True

instance (book : Book) : ∀ event, Decidable (Closed frames setup slBuf book event)
  | .start (.indexTick ltp ts) =>
      inferInstanceAs (Decidable (ClosedBy book ltp (indexTick frames setup slBuf book ltp ts)))
  | .start (.candleClose _ _) | .start (.optionTick _) | .start (.endOfDay _)
  | .resume _ _ => inferInstanceAs (Decidable True)

/-- The stop only tightens in a step, and closes what crosses it. -/
def Protected (system : Tasks.System Book Task) (event : Tasks.Event Handler Answer) : Prop :=
  Tightens system.shared.engine.pos.optType system.shared.engine.pos.trailSl
      (Tasks.step (stops frames setup slBuf) system event).shared.engine.pos.trailSl ∧
    Closed frames setup slBuf system.shared event

instance (system : Tasks.System Book Task) (event : Tasks.Event Handler Answer) :
    Decidable (Protected frames setup slBuf system event) :=
  inferInstanceAs (Decidable (_ ∧ _))

/-- A tick of the future meets a check that closes what has crossed the stop: its loop
runs, and after T1 with targets the trailing stop gets through, otherwise the floor
breaks or the stop of the entry is crossed too. -/
def Watched (book : Book) (ltp : Rat) (ts : Stamp) : Prop :=
  book.looping = true ∧
    if setup.noTargetTsl = false ∧ book.engine.pos.t1Hit = true then
      TrailSafety.Safe frames book.barsFut book.marks ts
    else
      TrapExit.floorBroken setup (TrapExit.lockFloor setup book.engine.pos ltp) ltp = true ∨
        Crossed book.engine.pos.optType book.engine.pos.slPrice ltp

instance (book : Book) (ltp : Rat) (ts : Stamp) : Decidable (Watched frames setup book ltp ts) :=
  inferInstanceAs (Decidable (book.looping = true ∧
    if setup.noTargetTsl = false ∧ book.engine.pos.t1Hit = true then
      TrailSafety.Safe frames book.barsFut book.marks ts
    else
      TrapExit.floorBroken setup (TrapExit.lockFloor setup book.engine.pos ltp) ltp = true ∨
        Crossed book.engine.pos.optType book.engine.pos.slPrice ltp))

/-- An option tick takes T1 only while the stop has not passed the spot of the entry, and
a tick of the future that has crossed the stop is watched. -/
def Sound (book : Book) : Tasks.Event Handler Answer → Prop
  | .start (.optionTick tick) =>
      book.engine.isOpen = true → TakesT1 book.engine.pos tick →
        Tightens book.engine.pos.optType book.engine.pos.trailSl book.engine.pos.spotAtEntry
  | .start (.indexTick ltp ts) =>
      book.engine.isOpen = true →
        Crossed book.engine.pos.optType book.engine.pos.trailSl ltp →
          Watched frames setup book ltp ts
  | _ => True

instance (book : Book) : ∀ event, Decidable (Sound frames setup book event)
  | .start (.optionTick tick) => inferInstanceAs (Decidable (_ → TakesT1 _ tick → Tightens _ _ _))
  | .start (.indexTick ltp ts) =>
      inferInstanceAs (Decidable (_ → _ → Watched frames setup book ltp ts))
  | .start (.candleClose _ _) | .start (.endOfDay _) | .resume _ _ =>
      inferInstanceAs (Decidable True)

end Book

section Steps

variable {frames : Frames} {setup : Setup} {slBuf : Rat} {book : Book} {tasks : List Task}
  (futures : setup.htfSource = .futures)

/-- A candle leaves the stop where it was or tighter. -/
theorem candleClose_leaves (book : Book) (bar : StoredBar) (today : Int) :
    ∃ stop, Tightens book.engine.pos.optType book.engine.pos.trailSl stop ∧
      Leaves book.engine.pos stop
        ((candleClose frames setup slBuf book bar today).engine, none) := by
  rw [candleClose]
  split
  · generalize keepBar book.barsFut bar = bars
    by_cases moves : book.engine.isOpen = true ∧ book.engine.pos.t1Hit = false
    · simp only [TrapExit.moveStop, if_pos moves]
      exact ⟨updateFuturesTsl frames (trailSetup setup slBuf) book.engine.pos bars today,
        updateFuturesTsl_tightens _ _ _, leaves_none rfl rfl rfl⟩
    · simp only [TrapExit.moveStop, if_neg moves]
      exact ⟨book.engine.pos.trailSl, tightens_refl _ _, leaves_none rfl rfl rfl⟩
  · exact ⟨book.engine.pos.trailSl, tightens_refl _ _, leaves_none rfl rfl rfl⟩

include futures

/-- What a handler leaves of the stop: the spot of the entry at T1, else the stop as it
was or a tighter one. -/
theorem startHandler_leaves (leg : book.engine.pos.leg = .fut) (handler : Handler) :
    let done := startHandler frames setup slBuf book handler
    ∃ stop, Leaves book.engine.pos stop (done.1.engine, done.2) ∧
      (Tightens book.engine.pos.optType book.engine.pos.trailSl stop ∨
        ∃ tick, handler = .optionTick tick ∧ book.engine.isOpen = true ∧
          TakesT1 book.engine.pos tick ∧ stop = book.engine.pos.spotAtEntry) := by
  intro done
  cases handler with
  | candleClose bar today =>
    obtain ⟨stop, tighter, left⟩ := candleClose_leaves book bar today
    exact ⟨stop, left, Or.inl tighter⟩
  | optionTick tick =>
    have left := optTick_leaves futures leg tick
    by_cases taken : book.engine.isOpen = true ∧ TakesT1 book.engine.pos tick
    · rw [if_pos taken] at left
      exact ⟨_, left, Or.inr ⟨tick, rfl, taken.1, taken.2, rfl⟩⟩
    · rw [if_neg taken] at left
      exact ⟨_, left, Or.inl (tightens_refl _ _)⟩
  | indexTick ltp ts =>
    obtain ⟨stop, tighter, left⟩ :=
      @indexTick_leaves frames _ slBuf _ futures leg ltp ts
    exact ⟨stop, left, Or.inl tighter⟩
  | endOfDay eodLtp => exact ⟨_, eodSquareOff_leaves eodLtp, Or.inl (tightens_refl _ _)⟩

omit futures in
/-- No handler touches the entry of a position. -/
theorem startHandler_entryTs (handler : Handler) :
    (startHandler frames setup slBuf book handler).1.marks.entryTs = book.marks.entryTs := by
  cases handler with
  | candleClose bar today =>
    simp only [startHandler, candleClose]
    split <;> rfl
  | optionTick tick => rfl
  | indexTick ltp ts =>
    simp only [startHandler, indexTick]
    split
    · split
      · exact (updateTrailSl_marked _ _ _ _).entryTs
      · rfl
    · rfl
  | endOfDay eodLtp => rfl

/-- A position on the future stays one over starts and answers. -/
theorem onFuture_pool :
    Tasks.PoolInvariant (stops frames setup slBuf) (fun _ _ _ => True) (fun _ _ _ _ => True)
      OnFuture := by
  apply Tasks.each_pool
    (fun book => book.engine.pos.leg = .fut ∧ book.marks.entryTs.aware = true)
    (fun task => ∀ tick, task.exit.after ≠ .tickT1 tick)
  case split =>
    intro book tasks
    exact ⟨fun kept => ⟨⟨kept.leg, kept.aware⟩, kept.plain⟩,
      fun kept => ⟨kept.1.1, kept.1.2, kept.2⟩⟩
  case starts =>
    intro book tasks handler ⟨leg, aware⟩ _
    obtain ⟨stop, left, -⟩ := @startHandler_leaves frames _ slBuf _ futures leg handler
    rw [← @startHandler_entryTs frames setup slBuf _ handler] at aware
    exact ⟨⟨left.leg.trans leg, aware⟩, left.plain⟩
  case resumes =>
    intro book others task answer ⟨leg, aware⟩ plain _
    have left := @resumeExit_leaves setup book.engine task answer plain
    exact ⟨⟨left.leg.trans leg, aware⟩, left.plain⟩

omit futures in
/-- The law of a tick speaks of the engine and the task that it leaves. -/
theorem closedBy_done {ltp : Rat} {ticked : Book × Option Task} {done : Engine × Option Task}
    (same : (ticked.1.engine, ticked.2) = done) :
    ClosedBy book ltp ticked ↔ (book.engine.isOpen = true →
      Crossed book.engine.pos.optType done.1.pos.trailSl ltp → closes done = true) := by
  subst same
  exact Iff.rfl

omit futures in
/-- A tick that leaves an open position as it was must not have crossed the stop. -/
theorem closedBy_still (isOpen : book.engine.isOpen = true) {ltp : Rat}
    {ticked : Book × Option Task} (same : (ticked.1.engine, ticked.2) = (book.engine, none)) :
    ClosedBy book ltp ticked ↔
      ¬Crossed book.engine.pos.optType book.engine.pos.trailSl ltp := by
  rw [closedBy_done same]
  simp [isOpen, closes]

/-- The law of one tick of the future. -/
theorem indexTick_protected_iff (leg : book.engine.pos.leg = .fut)
    (aware : book.marks.entryTs.aware = true) (ltp : Rat) (ts : Stamp) :
    ClosedBy book ltp (indexTick frames setup slBuf book ltp ts) ↔
      Sound frames setup book (.start (.indexTick ltp ts)) := by
  by_cases isOpen : book.engine.isOpen = true
  · by_cases looping : book.looping = true
    · by_cases trails : setup.noTargetTsl = false ∧ book.engine.pos.t1Hit = true
      · have safe := TrailSafety.trail_safe_iff frames (trailSetup setup slBuf) book.engine.pos
          book.barsFut book.marks ts aware
        by_cases fine : (trailOn frames setup slBuf book ts).error = none
        · -- The moved stop is the active one, so what crosses it is closed.
          rw [closedBy_done (indexTick_trailed futures leg looping isOpen trails ltp ts fine),
            (checkStops_leaves ltp).trailSl]
          simp only [Sound, Watched, isOpen, looping, if_pos trails, safe.mp fine, and_self,
            implies_true, iff_true, forall_const]
          exact @checkStops_closes_crossed _
            (restop book.engine (trailOn frames setup slBuf book ts).trailSl)
            futures trails isOpen ltp
        · rw [closedBy_still isOpen
            (indexTick_raised futures leg looping isOpen trails ltp ts fine)]
          simp only [Sound, Watched, isOpen, looping, if_pos trails, ← safe]
          simp [show ¬(updateTrailSl frames (trailSetup setup slBuf) book.engine.pos book.barsFut
            book.marks ts).error = none from fine]
      · rw [closedBy_done (indexTick_untrailed futures leg looping isOpen trails ltp ts),
          checkStops_closes_iff futures ltp isOpen, (checkStops_leaves ltp).trailSl,
          activeSl_untrailed trails]
        simp only [Sound, Watched, isOpen, looping, if_neg trails, true_and]
    · have idle : book.looping = false := by simpa using looping
      rw [closedBy_still isOpen (by rw [indexTick_idle (Or.inl idle)])]
      simp [Sound, Watched, isOpen, idle]
  · simp [ClosedBy, Sound, isOpen]

/-- The law of one step of the book. -/
theorem step_protected_iff (system : Tasks.System Book Task)
    (holds : OnFuture system.shared system.tasks) (event : Tasks.Event Handler Answer) :
    Protected frames setup slBuf system event ↔ Sound frames setup system.shared event := by
  obtain ⟨book, tasks⟩ := system
  cases event with
  | start handler =>
    cases handler with
    | candleClose bar today =>
      obtain ⟨stop, tighter, left⟩ := @candleClose_leaves frames setup slBuf book bar today
      rw [← left.trailSl] at tighter
      exact iff_of_true ⟨tighter, trivial⟩ trivial
    | optionTick tick =>
      have left := (optTick_leaves futures holds.leg tick).trailSl
      have step : Protected frames setup slBuf ⟨book, tasks⟩ (.start (.optionTick tick)) ↔
          Tightens book.engine.pos.optType book.engine.pos.trailSl
            (TrapExit.optTick setup book.engine tick).1.pos.trailSl := and_iff_left trivial
      rw [step, left]
      by_cases taken : book.engine.isOpen = true ∧ TakesT1 book.engine.pos tick
      · simp [Sound, taken]
      · rw [if_neg taken]
        exact iff_of_true (tightens_refl _ _) (fun isOpen takes => absurd ⟨isOpen, takes⟩ taken)
    | indexTick ltp ts =>
      obtain ⟨stop, tighter, left⟩ :=
        @indexTick_leaves frames _ slBuf _ futures holds.leg ltp ts
      rw [← left.trailSl] at tighter
      exact (and_iff_right tighter).trans
        (indexTick_protected_iff futures holds.leg holds.aware ltp ts)
    | endOfDay eodLtp =>
      have left := (@eodSquareOff_leaves book.engine eodLtp).trailSl
      refine iff_of_true ⟨?_, trivial⟩ trivial
      change Tightens _ _ (TrapExit.eodSquareOff book.engine eodLtp).1.pos.trailSl
      rw [left]
      exact tightens_refl _ _
  | resume index answer =>
    refine iff_of_true ⟨?_, trivial⟩ trivial
    rw [Tasks.step]
    cases found : tasks[index]? with
    | none => exact tightens_refl _ _
    | some task =>
      have left := @resumeExit_leaves setup book.engine task answer
        (holds.plain task (List.mem_of_getElem? found))
      change Tightens _ _ (TrapExit.resumeExit setup book.engine task answer).1.pos.trailSl
      rw [left.trailSl]
      exact tightens_refl _ _

end Steps

open TrailSafety ExitConservation

def crudeBook : Tasks.System Book Task where
  shared := ⟨crudeOpen.shared, { entryTs := morning (-1) }, [], true⟩
  tasks := []

/-- The candles rise without a trap, T1 is sold, and the future falls to the entry. -/
def quietDay : List (Tasks.Event Handler Answer) :=
  risingBars.map (fun bar => .start (.candleClose bar 0)) ++
    [.start (.optionTick ⟨⟨265, .kept⟩, true, false, false, false⟩),
      .resume 0 (.broker true), .resume 0 (.placed "X1"),
      .start (.indexTick 6020 (morning 15)), .start (.indexTick 5999 (morning 16)),
      .resume 0 (.broker true), .resume 0 (.placed "X2"), .start (.endOfDay 150)]

/-- A trapped zone of the future above the entry. -/
def trapAbove : List (Tasks.Event Handler Answer) :=
  [⟨morning 0, 6040, 6030, 6035⟩, ⟨morning 5, 6035, 6020, 6025⟩,
    ⟨morning 10, 6060, 6031, 6055⟩].map (fun bar => .start (.candleClose bar 0))

end OptionChain.StopTightening
