import Mathlib.Data.List.Induction
import OptionChain.CondorTasks

/-!
# One iron condor at a time

An entry is checked against the position before its subscriptions and installs
its own after them, a close clears whatever position it finds after its trade
log, and a position marked as broken counts as none. `condor_stays_exclusive`
says when the two loops still keep one condor at a time: an entry is published
only without any position and without a close that is still to be finished, and
no adjustment fails.
-/

namespace OptionChain.CondorExclusive

open Broker CondorPosition IronCondor CondorEffects CondorTasks

/-- The trade ids of the entries without an exit of their own. -/
def settle (held : List String) (event : ICOrderEvent) : List String :=
  match event.action with
  | .entry => held ++ [event.eventId]
  | .exit => held.filter (fun tradeId => tradeId ≠ event.eventId)
  | .adjustClose | .adjustOpen => held

/-- The condors that the published orders leave open. -/
def outstanding (events : List ICOrderEvent) : List String := Runs.run settle [] events

/-- Every entry is published when the earlier ones have been closed. -/
def Exclusive (events : List ICOrderEvent) : Prop :=
  Runs.Along settle (fun held event => event.action = .entry → held = []) [] events

instance (events : List ICOrderEvent) : Decidable (Exclusive events) :=
  inferInstanceAs (Decidable (Runs.Along settle (fun held event => event.action = .entry →
    held = []) [] events))

/-- The orders are exclusive, and a restart finds a broken position broken. -/
def Kept (strategy : Strategy) : Prop :=
  Exclusive strategy.published ∧ ∀ pos ∈ strategy.position, pos.status = .broken →
    ∃ saved ∈ reloaded strategy.stored, saved.tradeId = pos.tradeId ∧ saved.status = .broken

/-- A suspended close, which will clear the position. -/
def Task.closes : Task → Bool
  | .closing _ => true
  | .subscribing _ | .rolling _ _ | .marking => false

/-- Nothing is held and nothing is being closed. -/
def MayEnter (strategy : Strategy) (tasks : List Task) : Prop :=
  strategy.position = none ∧ ∀ task ∈ tasks, Task.closes task = false

/-- An attempt that does not wait publishes an entry. -/
def opens (settings : Settings) (clock : Clock) (tradeId : String) (strategy : Strategy) :
    Bool :=
  match tryEntry settings clock strategy with
  | (tried, some plan) => (entryFor settings clock plan tradeId tried).isSome
  | (_, none) => false

/-- An entry without a wait meets nothing, and an adjustment of an open position
has lots and a strike step. -/
def MayStart (strategy : Strategy) (tasks : List Task) : Handler → Prop
  | .candle settings clock tradeId waits =>
      waits = false → opens settings clock tradeId strategy = true → MayEnter strategy tasks
  | .indexTick settings clock ltp tradeId waits =>
      waits = false → strategy.tickLoopAlive = true →
        opens settings clock tradeId (strategy.ticked ltp) = true → MayEnter strategy tasks
  | .optionTick _ => True
  | .adjust settings _ _ => ∀ pos ∈ strategy.position, pos.status = .open →
      pos.lotSize ≠ 0 ∧ settings.strikeStep ≠ 0

/-- An entry that has waited meets nothing. -/
def MayResume (strategy : Strategy) (others : List Task) (task : Task) (answer : Answer) :
    Prop :=
  match task with
  | .subscribing plan =>
      (entryFor answer.settings answer.clock plan answer.tradeId strategy).isSome = true →
        MayEnter strategy others
  | .closing _ | .rolling _ _ | .marking => True

instance (strategy : Strategy) (tasks : List Task) : Decidable (MayEnter strategy tasks) :=
  inferInstanceAs (Decidable (_ ∧ ∀ task ∈ tasks, _))

instance (strategy : Strategy) (tasks : List Task) :
    ∀ handler, Decidable (MayStart strategy tasks handler)
  | .candle _ _ _ _ => inferInstanceAs (Decidable (_ → _ → _))
  | .indexTick _ _ _ _ _ => inferInstanceAs (Decidable (_ → _ → _ → _))
  | .optionTick _ => .isTrue trivial
  | .adjust settings _ _ => inferInstanceAs (Decidable (∀ pos ∈ strategy.position,
      pos.status = .open → pos.lotSize ≠ 0 ∧ settings.strikeStep ≠ 0))

instance (strategy : Strategy) (others : List Task) (answer : Answer) :
    ∀ task, Decidable (MayResume strategy others task answer)
  | .subscribing _ => inferInstanceAs (Decidable (_ → _))
  | .closing _ | .rolling _ _ | .marking => .isTrue trivial

/-- The trade id of an open position. -/
def openIds (position : Option IronCondorPosition) : List String :=
  match position with
  | some pos => if pos.status = .open then [pos.tradeId] else []
  | none => []

/-- The invariant of the loops: the orders leave open what the strategy holds open,
and no suspended close is about to clear it. -/
structure Held (strategy : Strategy) (tasks : List Task) : Prop where
  exclusive : Exclusive strategy.published
  counted : outstanding strategy.published = openIds strategy.position
  sound : ∀ pos ∈ strategy.position, pos.status ≠ .broken
  calm : ∀ pos ∈ strategy.position, pos.status = .open →
    ∀ task ∈ tasks, Task.closes task = false

section Events

variable {events : List ICOrderEvent} {event : ICOrderEvent}

theorem outstanding_snoc :
    outstanding (events ++ [event]) = settle (outstanding events) event := by
  simp [outstanding]

theorem exclusive_snoc : Exclusive (events ++ [event]) ↔
    Exclusive events ∧ (event.action = .entry → outstanding events = []) := by
  simp [Exclusive, Runs.along_append, Runs.Along, outstanding]

/-- The orders of an adjustment open and close nothing. -/
theorem adjusts_neutral (orders : List ICOrderEvent)
    (adjusts : ∀ order ∈ orders, order.action = .adjustClose ∨ order.action = .adjustOpen) :
    outstanding (events ++ orders) = outstanding events ∧
      (Exclusive (events ++ orders) ↔ Exclusive events) := by
  induction orders using List.reverseRecOn with
  | nil => simp
  | append_singleton earlier order inductionHypothesis =>
    obtain ⟨same, exclusive⟩ := inductionHypothesis
      (fun other listed => adjusts other (List.mem_append_left _ listed))
    rw [← List.append_assoc, outstanding_snoc, exclusive_snoc, same, exclusive]
    rcases adjusts order (by simp) with close | «open»
    · simp [settle, close]
    · simp [settle, «open»]

end Events

section Steps

variable {strategy after : Strategy} {tasks others : List Task} {settings : Settings}
  {clock : Clock} {pos : IronCondorPosition}

/-- Nothing is entered or closed, and no new task will close anything. -/
theorem moved_held (orders : List ICOrderEvent) (held : Held strategy tasks)
    (published : after.published = strategy.published ++ orders)
    (adjusts : ∀ order ∈ orders, order.action = .adjustClose ∨ order.action = .adjustOpen)
    (ids : openIds after.position = openIds strategy.position)
    (sound : ∀ pos ∈ after.position, pos.status ≠ .broken)
    (fresh : ∀ task ∈ others, task ∈ tasks ∨ Task.closes task = false) :
    Held after others := by
  obtain ⟨same, exclusive⟩ := @adjusts_neutral strategy.published orders adjusts
  constructor
  case exclusive =>
    rw [published, exclusive]
    exact held.exclusive
  case counted => rw [published, same, ids, held.counted]
  case sound => exact sound
  case calm =>
    intro pos found opened task listed
    rcases fresh task listed with old | new
    · have singleton : openIds strategy.position = [pos.tradeId] := by
        rw [← ids, Option.mem_def.mp found]
        simp [openIds, opened]
      cases before : strategy.position with
      | none => simp [before, openIds] at singleton
      | some earlier =>
        by_cases wasOpen : earlier.status = .open
        · exact held.calm earlier before wasOpen task old
        · simp [before, openIds, wasOpen] at singleton
    · exact new

/-- Without an order or a change of the position the invariant stays. -/
theorem same_held (held : Held strategy tasks) (published : after.published = strategy.published)
    (position : after.position = strategy.position)
    (fresh : ∀ task ∈ others, task ∈ tasks ∨ Task.closes task = false) : Held after others := by
  apply moved_held [] held (by simpa using published) (by simp) (by rw [position]) _ fresh
  rw [position]
  exact held.sound

/-- An entry where nothing is held and nothing is being closed. -/
theorem fire_held (plan : EntryPlan) (tradeId : String) (held : Held strategy tasks)
    (may : (entryFor settings clock plan tradeId strategy).isSome = true →
      MayEnter strategy tasks) :
    Held (fireEntry settings clock plan tradeId strategy) tasks := by
  cases found : entryFor settings clock plan tradeId strategy with
  | none =>
    simp only [fireEntry, found]
    exact held
  | some pos =>
    obtain ⟨nothing, calm⟩ := may (by simp [found])
    have free : outstanding strategy.published = [] := by
      rw [held.counted, nothing]
      rfl
    have opened := entryFor_open found
    have entered : (fireEntry settings clock plan tradeId strategy).position = some pos ∧
        (fireEntry settings clock plan tradeId strategy).published =
          strategy.published ++ [entryEvent pos] := by
      simp [fireEntry, found, persist, opened, Strategy.publish]
    obtain ⟨position, published⟩ := entered
    constructor
    case exclusive =>
      rw [published, exclusive_snoc]
      exact ⟨held.exclusive, fun _ => free⟩
    case counted =>
      rw [published, outstanding_snoc, free, position]
      simp [settle, entryEvent, openIds, opened]
    case sound =>
      rw [position]
      rintro same ⟨⟩ marked
      rw [opened] at marked
      cases marked
    case calm =>
      intro same _ _ task listed
      exact calm task listed

/-- A close publishes its exit, after which no condor is open. -/
theorem beginClose_held (reason : String) (held : Held strategy tasks)
    (found : strategy.position = some pos) : Held (beginClose reason strategy).1 others := by
  have position : (beginClose reason strategy).1.position =
      some { pos with status := .closed } := by
    simp [beginClose, found]
  have published : (beginClose reason strategy).1.published =
      strategy.published ++ [exitEvent reason pos strategy] := by
    simp [beginClose, found, Strategy.publish]
  constructor
  case exclusive =>
    rw [published, exclusive_snoc]
    exact ⟨held.exclusive, fun entry => by simp [exitEvent] at entry⟩
  case counted =>
    rw [published, outstanding_snoc, held.counted, found, position]
    by_cases opened : pos.status = .open
    · simp [settle, exitEvent, openIds, opened]
    · simp [settle, exitEvent, openIds, opened]
  case sound =>
    rw [position]
    rintro same ⟨⟩ marked
    cases marked
  case calm =>
    rw [position]
    rintro same ⟨⟩ opened
    cases opened

/-- The end of a close clears a position that is not open. -/
theorem finishClose_held (held : Held strategy tasks)
    (gone : ∀ pos ∈ strategy.position, pos.status ≠ .open) :
    Held (finishClose settings clock strategy) others := by
  have nothing : openIds strategy.position = [] := by
    cases found : strategy.position with
    | none => rfl
    | some pos => simp [openIds, gone pos found]
  constructor
  case exclusive => exact held.exclusive
  case counted =>
    have same : outstanding (finishClose settings clock strategy).published =
        outstanding strategy.published := rfl
    rw [same, held.counted, nothing]
    rfl
  case sound =>
    rintro pos ⟨⟩
  case calm =>
    rintro pos ⟨⟩

/-- The lock is not part of the invariant. -/
theorem unlock_held (held : Held strategy tasks) : Held (unlock strategy) tasks :=
  ⟨held.exclusive, held.counted, held.sound, held.calm⟩

/-- A close, up to its log or its end. -/
theorem startClose_held (logs : Bool) (reason : String) (locked : Bool)
    (held : Held strategy tasks) :
    Held (startClose logs settings clock reason locked strategy).1
      ((startClose logs settings clock reason locked strategy).2.toList ++ tasks) := by
  cases found : strategy.position with
  | none =>
    have begun : beginClose reason strategy = (strategy, false) := by
      simp [beginClose, found]
    rw [startClose, begun]
    cases locked with
    | true => exact unlock_held held
    | false => exact held
  | some pos =>
    obtain ⟨closing, begun, position⟩ : ∃ closing : Strategy,
        beginClose reason strategy = (closing, true) ∧
          closing.position = some { pos with status := .closed } := by
      refine ⟨(beginClose reason strategy).1, ?_, ?_⟩ <;> simp [beginClose, found]
    have ended (others : List Task) : Held closing others := by
      have first := @beginClose_held _ _ others _ reason held found
      rw [begun] at first
      exact first
    have gone : ∀ pos ∈ closing.position, pos.status ≠ .open := by
      rw [position]
      rintro same ⟨⟩ opened
      cases opened
    have finished := @finishClose_held _ _ tasks settings clock (ended tasks) gone
    rw [startClose, begun]
    cases logs with
    | true => exact ended _
    | false =>
      cases locked with
      | true => exact unlock_held finished
      | false => exact finished

/-- An attempt to enter, up to its subscriptions or its order. -/
theorem startEntry_held (tradeId : String) (waits : Bool) (held : Held strategy tasks)
    (may : waits = false → opens settings clock tradeId strategy = true →
      MayEnter strategy tasks) :
    Held (startEntry settings clock tradeId waits strategy).1
      ((startEntry settings clock tradeId waits strategy).2.toList ++ tasks) := by
  obtain ⟨time, noted⟩ := @tryEntry_tried settings clock strategy
  rw [startEntry]
  rw [opens] at may
  cases attempt : tryEntry settings clock strategy with
  | mk tried planned =>
    rw [attempt] at noted may
    dsimp only at noted
    subst noted
    have tried : Held { strategy with lastEntryAttempt := time } tasks :=
      ⟨held.exclusive, held.counted, held.sound, held.calm⟩
    cases planned with
    | none => exact tried
    | some plan =>
      cases waits with
      | true =>
        refine same_held held rfl rfl ?_
        intro task listed
        rcases List.mem_cons.mp listed with rfl | old
        · exact Or.inr rfl
        · exact Or.inl old
      | false => exact fire_held plan tradeId tried (may rfl)

/-- The managing branch of the tick loop. -/
theorem startManage_held (logs : Bool) (held : Held strategy tasks)
    (inside : managed strategy) (free : strategy.adjusting = false) :
    Held (startManage logs settings clock strategy).1
      ((startManage logs settings clock strategy).2.toList ++ tasks) := by
  obtain ⟨pos, found, opened⟩ := inside
  rw [startManage]
  cases due : strategy.position.bind (exitReason settings clock) with
  | some reason => exact startClose_held logs reason false held
  | none =>
    have kept : exitReason settings clock pos = none := by
      rw [Option.mem_def.mp found] at due
      exact due
    rcases @manage_effect settings clock _ _ found opened free with
      same | ⟨exit, -⟩
    · exact same_held held same.published same.position (fun task listed => Or.inl listed)
    · have some := CondorTick.exitReason_isSome_iff.mpr exit
      rw [kept] at some
      cases some

/-- The hard stop after an adjustment. -/
theorem finishAdjust_held (logs : Bool) (adjCount : Nat) (maxAdj : Int)
    (held : Held strategy tasks) :
    Held (finishAdjust logs settings clock adjCount maxAdj strategy).1
      ((finishAdjust logs settings clock adjCount maxAdj strategy).2.toList ++ tasks) := by
  rw [finishAdjust]
  split
  · exact startClose_held logs _ true held
  · exact unlock_held held

/-- An adjustment moves no trade id and no status. -/
theorem rolled_kept (side : OptType) (strategy : Strategy) (pos : IronCondorPosition) :
    (rolledPosition settings side strategy pos).tradeId = pos.tradeId ∧
      (rolledPosition settings side strategy pos).status = pos.status := by
  cases side with
  | ce => exact ⟨rfl, rfl⟩
  | pe => exact ⟨rfl, rfl⟩

/-- The end of an adjustment that failed on a position already closed. -/
theorem failed_held (logs : Bool) {failed : Strategy} (orders : List ICOrderEvent)
    {still : IronCondorPosition} (held : Held strategy tasks)
    (published : failed.published = strategy.published ++ orders)
    (adjusts : ∀ order ∈ orders, order.action = .adjustClose ∨ order.action = .adjustOpen)
    (found : strategy.position = some pos) (gone : pos.status = .closed)
    (position : failed.position = some still) (stays : still.status = .closed) :
    Held (if logs ∧ ∃ pos ∈ failed.position, pos.status = .broken then
        (failed, some Task.marking) else (unlock failed, none)).1
      ((if logs ∧ ∃ pos ∈ failed.position, pos.status = .broken then
        (failed, some Task.marking) else (unlock failed, none)).2.toList ++ tasks) := by
  have unmarked : ¬(logs ∧ ∃ pos ∈ failed.position, pos.status = .broken) := by
    rw [position]
    rintro ⟨-, same, ⟨⟩, marked⟩
    rw [stays] at marked
    cases marked
  rw [if_neg unmarked]
  apply unlock_held
  apply moved_held orders held published adjusts
  · rw [position, found]
    simp [openIds, stays, gone]
  · rw [position]
    rintro same ⟨⟩ marked
    rw [stays] at marked
    cases marked
  · exact fun task listed => Or.inl listed

/-- An adjustment, up to its first log or its end. It fails only on a position
whose close is already published. -/
theorem startAdjust_held (logs : Bool) (side : OptType) (held : Held strategy tasks)
    (may : ∀ pos ∈ strategy.position, pos.status = .open →
      pos.lotSize ≠ 0 ∧ settings.strikeStep ≠ 0) :
    Held (startAdjust logs settings clock side strategy).1
      ((startAdjust logs settings clock side strategy).2.toList ++ tasks) := by
  rw [startAdjust]
  by_cases idle : ∀ pos ∈ strategy.position, strategy.adjusting = true ∨ pos.status = .broken
  · rw [beginAdjust_skipped side idle]
    exact held
  · simp only [not_forall, not_or, Bool.not_eq_true] at idle
    obtain ⟨pos, found, free, sound⟩ := idle
    have allowed := may pos found
    rw [Option.mem_def] at found
    have gone (fails : ¬(pos.lotSize ≠ 0 ∧ settings.strikeStep ≠ 0)) : pos.status = .closed := by
      cases status : pos.status with
      | «open» => exact absurd (allowed status) fails
      | closed => rfl
      | broken => exact absurd status sound
    by_cases lots : pos.lotSize = 0
    · have closed := gone (fun both => both.1 lots)
      rw [beginAdjust_refused found free sound side lots]
      exact failed_held logs [] held (by simp [markBroken]) (by simp) found closed
        (by simp [markBroken, found, closed]) closed
    · by_cases step : settings.strikeStep = 0
      · have closed := gone (fun both => both.2 step)
        have still : (IronCondorPosition.booked pos side strategy).status = .closed := closed
        rw [beginAdjust_halved found free sound side lots step]
        exact failed_held logs _ held rfl (by simp [adjustCloseEvent]) found closed
          (by simp [markBroken, still]) still
      · obtain ⟨rolled, begun, position, -, published⟩ :=
          beginAdjust_rolled found free sound side lots step
        obtain ⟨tradeId, status⟩ := @rolled_kept settings side strategy pos
        have moved (others : List Task)
            (fresh : ∀ task ∈ others, task ∈ tasks ∨ Task.closes task = false) :
            Held rolled others := by
          apply moved_held _ held published
          · simp [rollOrders, adjustCloseEvent, adjustOpenEvent]
          · rw [position, found]
            simp [openIds, tradeId, status]
          · rw [position]
            rintro same ⟨⟩
            rw [status]
            exact sound
          · exact fresh
        rw [begun]
        cases logs with
        | true =>
          apply moved
          intro task listed
          rcases List.mem_cons.mp listed with rfl | old
          · exact Or.inr rfl
          · exact Or.inl old
        | false =>
          exact finishAdjust_held false _ _ (moved tasks (fun task listed => Or.inl listed))

/-- A handler that starts beside some tasks. -/
theorem start_held (logs : Bool) (handler : Handler) (held : Held strategy tasks)
    (may : MayStart strategy tasks handler) :
    Held (startHandler logs strategy handler).1
      ((startHandler logs strategy handler).2.toList ++ tasks) := by
  cases handler with
  | candle settings clock tradeId waits => exact startEntry_held tradeId waits held may
  | indexTick settings clock ltp tradeId waits =>
    have ticked : Held (strategy.ticked ltp) tasks :=
      ⟨held.exclusive, held.counted, held.sound, held.calm⟩
    rw [startHandler]
    by_cases alive : strategy.tickLoopAlive = true
    · rw [if_pos alive]
      by_cases inside : managed (strategy.ticked ltp)
      · simp only [inside, if_true]
        by_cases locked : (strategy.ticked ltp).adjusting = true
        · rw [if_pos locked]
          exact ticked
        · rw [if_neg locked]
          exact startManage_held logs ticked inside (Bool.eq_false_iff.mpr locked)
      · simp only [inside, if_false]
        exact startEntry_held tradeId waits ticked (fun now => may now alive)
    · rw [if_neg alive]
      exact held
  | optionTick tick =>
    obtain ⟨priced, -, published, -⟩ := @optionTick_effect strategy tick
    rcases priced with same | moved
    · exact same_held held published same (fun task listed => Or.inl listed)
    · have quiet : (startHandler logs strategy (.optionTick tick)).1.published =
          strategy.published ++ [] := by
        rw [List.append_nil]
        exact published
      refine moved_held [] held quiet (by simp) ?_ ?_ (fun task listed => Or.inl listed)
      · rw [startHandler, moved]
        cases strategy.position with
        | none => rfl
        | some pos => simp [openIds]
      · rw [startHandler, moved]
        intro priced found
        obtain ⟨pos, before, rfl⟩ := Option.mem_map.mp found
        rw [updateLtp_status]
        exact held.sound pos before
  | adjust settings clock side => exact startAdjust_held logs side held may

/-- A task that is answered beside the others. -/
theorem resume_held (logs : Bool) (task : Task) (answer : Answer)
    (held : Held strategy (task :: others))
    (may : MayResume strategy others task answer) :
    Held (resumeTask logs strategy task answer).1
      ((resumeTask logs strategy task answer).2.toList ++ others) := by
  have beside : Held strategy others :=
    same_held held rfl rfl (fun task listed => Or.inl (List.mem_cons_of_mem _ listed))
  cases task with
  | subscribing plan => exact fire_held plan answer.tradeId beside may
  | closing locked =>
    have gone : ∀ pos ∈ strategy.position, pos.status ≠ .open := by
      intro pos found opened
      have calm := held.calm pos found opened (.closing locked) (by simp)
      cases calm
    have finished := @finishClose_held _ _ others answer.settings answer.clock beside gone
    cases locked with
    | true => exact unlock_held finished
    | false => exact finished
  | rolling adjCount maxAdj => exact finishAdjust_held logs adjCount maxAdj beside
  | marking => exact unlock_held beside

end Steps

/-- The invariant is one of the shared state and the pool of tasks. -/
theorem held_pool (logs : Bool) :
    Tasks.PoolInvariant (program logs) MayStart MayResume Held := by
  constructor
  case unordered =>
    intro strategy tasks other same held
    exact ⟨held.exclusive, held.counted, held.sound, fun pos found opened task listed =>
      held.calm pos found opened task (same.mem_iff.mpr listed)⟩
  case starts =>
    intro strategy tasks handler held may
    exact start_held logs handler held may
  case resumes =>
    intro strategy others task answer held may
    exact resume_held logs task answer held may

/-- For every interleaving of any number of attempts, ticks and adjustments from a
strategy without a position, with or without a database: where entries meet nothing
and adjustments do not fail, the orders stay exclusive. -/
theorem condor_stays_exclusive (logs : Bool) (start : Strategy)
    (events : List (Tasks.Event Handler Answer)) (nothing : start.position = none)
    (unpublished : start.published = [])
    (guarded : Runs.Along (Tasks.step (program logs)) (Tasks.Guarded MayStart MayResume)
      ⟨start, []⟩ events) :
    Kept (Runs.run (Tasks.step (program logs)) ⟨start, []⟩ events).shared := by
  have initially : Held start [] := by
    constructor
    case exclusive =>
      rw [unpublished]
      exact trivial
    case counted =>
      rw [unpublished, nothing]
      rfl
    case sound => simp [nothing]
    case calm => simp
  have held := Tasks.pool_run (held_pool logs) ⟨start, []⟩ events initially guarded
  exact ⟨held.exclusive, fun pos found marked => absurd marked (held.sound pos found)⟩

/-- The clock some seconds after noon. -/
def later (seconds : Rat) : Clock :=
  { noon with monotonic := noon.monotonic + seconds, now := noon.now + seconds
              timeOfDay := noon.timeOfDay + seconds }

/-- A tick that waits for its subscriptions and then enters, an adjustment, a tick
that takes the profit, and the end of its close. -/
def oneAfterTheOther : List (Tasks.Event Handler Answer) :=
  [.start (.indexTick .shipped noon 24600 "" true),
    .resume 0 ⟨.shipped, later 2, "t1"⟩,
    .start (.optionTick ⟨"NIFTY", 10, 24900, .ce, 20, 0, 0⟩),
    .start (.optionTick ⟨"NIFTY", 10, 24300, .pe, 20, 0, 0⟩),
    .start (.indexTick .shipped (later 20) 24610 "" false),
    .resume 0 ⟨.shipped, later 21, ""⟩]

/-- A strategy without a position that sees the quotes of an entry. -/
def idle : Strategy where
  underlying := "NIFTY"
  spot := 24600
  prem := entryQuotes

theorem condor_exclusive_around_a_close :
    Kept (Runs.run (Tasks.step (program true)) ⟨idle, []⟩ oneAfterTheOther).shared :=
  condor_stays_exclusive true idle oneAfterTheOther rfl rfl (by decide +kernel)

/-- While the tick waits for its subscriptions, a candle enters; the tick enters
too. -/
def bothLoopsEnter : List (Tasks.Event Handler Answer) :=
  [.start (.indexTick .shipped noon 24600 "" true),
    .start (.candle .shipped (later 2) "t1" false),
    .resume 0 ⟨.shipped, later 3, "t2"⟩]

/-- An adjustment without a strike step fails after an entry; the next candle
enters again. -/
def brokenReplaced : List (Tasks.Event Handler Answer) :=
  [.start (.candle .shipped noon "t1" false),
    .start (.adjust { Settings.shipped with strikeStep := 0 } (later 2) .ce),
    .start (.candle .shipped (later 4) "t2" false)]

/-- Both runs publish two entries and no exit. -/
theorem condor_entered_twice :
    ¬Kept (Runs.run (Tasks.step (program false)) ⟨idle, []⟩ bothLoopsEnter).shared ∧
      ¬Kept (Runs.run (Tasks.step (program false)) ⟨idle, []⟩ brokenReplaced).shared := by
  constructor
  · rintro ⟨exclusive, -⟩
    exact absurd exclusive (by decide +kernel)
  · rintro ⟨exclusive, -⟩
    exact absurd exclusive (by decide +kernel)

end OptionChain.CondorExclusive
