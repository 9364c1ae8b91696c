import OptionChain.TrapEntry
import OptionChain.TrapExit

/-!
# The re-entry after a liquidity sweep

A plain stop before T1 leaves a watch behind: when the price recovers, the zone is to be
entered again. `_check_sweep_reentry` is reached from `_check_tick_exit` without a
position, and both tick loops call that only with one, so no tick ever looks at the watch.

Called by itself the handler does not re-enter either as long as the book has entered the
zone before: it makes up a signal for the zone, whose id is still among the notified ones.
For a put of futures mode it waits for the price above the stop, where the position lost.

Beside the exits of a position the book keeps here what entries read. An exit that stays
suspended while another position is recorded would go on with the old one in the source;
without a position no tick starts an entry, so the runs below never come to that.
-/

namespace OptionChain.SweepReentry

open Broker TrapPosition
open TrapExit (SweepWatch OptionTick Exit closeOut watchFor)
open TrapEntry (BuyOrder Market Signal)

/-- What the exits and the entries of one book read from its settings. -/
structure Setup where
  exits : TrapExit.Setup
  entries : TrapEntry.Setup
  oneSource : entries.htfSource = exits.htfSource

/-- The position with its exits, and the fields that entries share. -/
structure Book where
  exits : TrapExit.Engine
  noMarginToday : Bool
  notifiedUids : List ZoneUid
  market : Market
  orders : List BuyOrder
deriving DecidableEq

namespace Book

variable (book : Book)

/-- `self._position`. -/
def position : Option Position := if book.exits.isOpen then some book.exits.pos else none

/-- The book as entries see it. -/
def engine : TrapEntry.Engine where
  noMarginToday := book.noMarginToday
  position := book.position
  notifiedUids := book.notifiedUids
  market := book.market
  orders := book.orders

def withExits (exits : TrapExit.Engine) : Book := { book with exits := exits }

/-- The book after a segment of an entry. -/
def withEngine (engine : TrapEntry.Engine) : Book where
  exits :=
    match engine.position with
    | none => { book.exits with isOpen := false }
    | some pos => { book.exits with pos := pos, isOpen := true }
  noMarginToday := engine.noMarginToday
  notifiedUids := engine.notifiedUids
  market := engine.market
  orders := engine.orders

/-- `self._sweep_watch = ..`. -/
def watching (watch : Option SweepWatch) : Book :=
  { book with exits := { book.exits with sweepWatch := watch } }

end Book

/-- The time of a tick and the answer of `_can_trade`. -/
structure Moment where
  now : Nat
  canTrade : Bool

inductive Task where
  | exit (task : TrapExit.Task)
  | entry (task : TrapEntry.Task)
deriving DecidableEq

inductive Answer where
  | exit (answer : TrapExit.Answer)
  | entry (answer : TrapEntry.Answer)

inductive Handler where
  | optionTick (tick : OptionTick) (moment : Moment)
  | indexTick (tick : TrapExit.Tick) (moment : Moment)

/-- The signal made up for the zone of a watch. -/
def synthSignal (watch : SweepWatch) (moment : Moment) : Signal where
  leg := watch.leg
  optType := watch.optType
  entry := ⟨watch.entryZone.zoneHigh, watch.entryZone.zoneLow⟩
  htfZone := watch.entryZone
  now := moment.now
  canTrade := moment.canTrade

section Loops

variable (setup : Setup) (book : Book)

/-- A segment of the exits. -/
def exiting (outcome : TrapExit.Engine × Option TrapExit.Task) : Book × Option Task :=
  (book.withExits outcome.1, outcome.2.map .exit)

/-- A segment of an entry. -/
def entering (outcome : TrapEntry.Engine × Option TrapEntry.Task) : Book × Option Task :=
  (book.withEngine outcome.1, outcome.2.map .entry)

/-- `_check_sweep_reentry`. -/
def checkSweepReentry (ltp : Rat) (moment : Moment) : Book × Option Task :=
  match book.exits.sweepWatch with
  | none => (book, none)
  | some watch =>
      if book.exits.isOpen then (book, none)
      else if watch.slLevel < ltp then
        entering (book.watching none)
          (TrapEntry.onEntrySignal setup.entries (book.watching none).engine
            (synthSignal watch moment))
      else
        let candlesLeft := watch.candlesLeft - 1
        (book.watching
          (if candlesLeft = 0 then none else some { watch with candlesLeft := candlesLeft }), none)

/-- `_check_tick_exit`. -/
def checkTickExit (tick : TrapExit.Tick) (moment : Moment) : Book × Option Task :=
  if book.exits.isOpen then exiting book (TrapExit.checkTickExit setup.exits book.exits tick)
  else checkSweepReentry setup book tick.ltp moment

/-- The position part of `_opt_tick_loop`. -/
def optTick (tick : OptionTick) (moment : Moment) : Book × Option Task :=
  if book.exits.isOpen then
    if tick.tracks book.exits.pos.leg then checkTickExit setup book tick.toTick moment
    else if setup.exits.htfSource = .futures ∧ book.exits.pos.leg = .fut ∧
        book.exits.pos.t1Hit = false ∧ 0 < book.exits.pos.t1Price ∧
        tick.nearLeg book.exits.pos.optType then
      exiting book (TrapExit.checkOptionT1 setup.exits book.exits tick.ltp)
    else (book, none)
  else (book, none)

/-- The position part of `_idx_tick_loop`. -/
def idxTick (tick : TrapExit.Tick) (moment : Moment) : Book × Option Task :=
  if setup.exits.htfSource = .futures ∧ book.exits.isOpen ∧ book.exits.pos.leg = .fut then
    checkTickExit setup book tick moment
  else (book, none)

/-- The tick loops, with their exits and the entries a tick starts. -/
def loops : Tasks.Program Book Handler Task Answer where
  start book handler :=
    match handler with
    | .optionTick tick moment => optTick setup book tick moment
    | .indexTick tick moment => idxTick setup book tick moment
  resume book task answer :=
    match task, answer with
    | .exit task, .exit answer =>
        exiting book (TrapExit.resumeExit setup.exits book.exits task answer)
    | .entry task, .entry answer =>
        entering book (TrapEntry.resumeEntry setup.entries book.engine task answer)
    | task, _ => (book, some task)

end Loops

/-! ## Ticks without a position -/

section Flat

variable {setup : TrapExit.Setup} {engine : TrapExit.Engine}

/-- Without a position every exit is over at its end. -/
theorem beginClose_flat (flat : engine.isOpen = false) (exit : Exit) :
    (TrapExit.beginClose engine exit).1.isOpen = false := by
  simp [TrapExit.beginClose, TrapExit.returnsAtOnce, flat, closeOut]

theorem checkStops_flat (flat : engine.isOpen = false) (ltp : Rat) :
    (TrapExit.checkStops setup engine ltp).1.isOpen = false := by
  unfold TrapExit.checkStops
  dsimp only
  split
  · apply beginClose_flat
    exact flat
  · split
    · apply beginClose_flat
      exact flat
    · exact flat

theorem settleTick_flat (flat : engine.isOpen = false) (tick : TrapExit.Tick) :
    (TrapExit.settleTick setup engine tick).1.isOpen = false := by
  unfold TrapExit.settleTick
  split
  · split
    · exact checkStops_flat flat _
    · apply checkStops_flat
      exact flat
    · exact flat
  · exact checkStops_flat flat _

theorem returned_flat (flat : engine.isOpen = false) (exit : Exit) (orderId : Option String) :
    (TrapExit.returned setup engine exit orderId).1.isOpen = false := by
  have recorded : (TrapExit.recordHalf engine exit orderId).isOpen = false := flat
  unfold TrapExit.returned TrapExit.halfDone
  cases exit.after with
  | close => rfl
  | optionT1 => exact recorded
  | tickT1 tick => exact settleTick_flat recorded tick

/-- An exit that goes on leaves the book without a position. -/
theorem resumeExit_flat (flat : engine.isOpen = false) (task : TrapExit.Task)
    (answer : TrapExit.Answer) :
    (TrapExit.resumeExit setup engine task answer).1.isOpen = false := by
  unfold TrapExit.resumeExit
  split
  · split
    · simp [flat]
    · exact returned_flat flat _ _
  · apply returned_flat
    exact flat
  · exact returned_flat flat _ _
  · exact flat

end Flat

section Idle

variable (setup : Setup) (book : Book)

/-- The tick loops do what the exits of the position do: they never look at the watch. -/
theorem loops_start (handler : Handler) :
    (loops setup).start book handler = exiting book (TrapExit.startHandler setup.exits book.exits
      (match handler with
        | .optionTick tick _ => .optionTick tick
        | .indexTick tick _ => .indexTick tick)) := by
  have same : exiting book (book.exits, none) = (book, none) := rfl
  cases handler with
  | optionTick tick moment =>
    simp only [loops, optTick, TrapExit.startHandler, TrapExit.optTick, checkTickExit]
    by_cases isOpen : book.exits.isOpen = true
    · simp only [isOpen, if_true]
      split
      · rfl
      · split
        · rfl
        · exact same.symm
    · simp only [isOpen, Bool.false_eq_true, if_false, same]
  | indexTick tick moment =>
    simp only [loops, idxTick, TrapExit.startHandler, TrapExit.idxTick, checkTickExit]
    split
    case isTrue reached => rw [if_pos reached.2.1]
    case isFalse unreached => exact same.symm

/-- No position, these orders and no others, and nothing suspended but exits. -/
structure Idle (orders : List BuyOrder) (book : Book) (tasks : List Task) : Prop where
  flat : book.exits.isOpen = false
  unordered : book.orders = orders
  exits : ∀ task ∈ tasks, ∃ exit, task = .exit exit

theorem idle_pool (orders : List BuyOrder) :
    Tasks.PoolInvariant (loops setup) (fun _ _ _ => True) (fun _ _ _ _ => True) (Idle orders) := by
  apply Tasks.each_pool (fun book => book.exits.isOpen = false ∧ book.orders = orders)
    (fun task => ∃ exit, task = .exit exit)
  case split =>
    intro book tasks
    exact ⟨fun idle => ⟨⟨idle.flat, idle.unordered⟩, idle.exits⟩,
      fun idle => ⟨idle.1.1, idle.1.2, idle.2⟩⟩
  case starts =>
    intro book tasks handler ⟨flat, unordered⟩ _
    have ignored : (loops setup).start book handler = (book, none) := by
      rw [loops_start]
      cases handler with
      | optionTick tick moment =>
        simp [TrapExit.startHandler, TrapExit.optTick, flat, exiting, Book.withExits]
      | indexTick tick moment =>
        simp [TrapExit.startHandler, TrapExit.idxTick, flat, exiting, Book.withExits]
    rw [ignored]
    exact ⟨⟨flat, unordered⟩, by simp⟩
  case resumes =>
    rintro book others task answer ⟨flat, unordered⟩ ⟨exit, rfl⟩ _
    cases answer with
    | entry answer => exact ⟨⟨flat, unordered⟩, by simp [loops]⟩
    | exit answer =>
      refine ⟨⟨resumeExit_flat flat exit answer, unordered⟩, ?_⟩
      intro next goesOn
      obtain ⟨other, -, same⟩ := Option.map_eq_some_iff.mp goesOn
      exact ⟨other, same.symm⟩

end Idle

/-! ## The handler by itself -/

section Direct

variable (setup : Setup) (book : Book) (watch : SweepWatch) (ltp : Rat) (moment : Moment)

/-- The price is back on the profitable side of the stop. -/
def Back : Prop :=
  if setup.exits.htfSource = .futures ∧ watch.optType = .pe then ltp < watch.slLevel
  else watch.slLevel < ltp

/-- The price is back while the book may trade. -/
structure Recovers : Prop where
  back : Back setup watch ltp
  allowed : moment.canTrade = true
  beforeCutoff : moment.now < setup.entries.cutoff
  inWindow : ∀ first last, setup.entries.entryWin = some (first, last) →
    first ≤ moment.now ∧ moment.now ≤ last
  margin : book.noMarginToday = false

variable {setup book watch ltp moment}

/-- On a recovery the other gates of an entry are open. -/
theorem gatesOpen_iff (recovers : Recovers setup book watch ltp moment)
    (flat : book.exits.isOpen = false) :
    TrapEntry.gatesOpen setup.entries book.engine (synthSignal watch moment) = true ↔
      zoneUid watch.entryZone ∉ book.notifiedUids := by
  have free : book.position = none := by simp [Book.position, flat]
  unfold TrapEntry.gatesOpen
  cases window : setup.entries.entryWin with
  | none =>
    simp [synthSignal, Book.engine, free, recovers.margin, recovers.allowed,
      recovers.beforeCutoff]
  | some bounds =>
    have inside := recovers.inWindow bounds.1 bounds.2 window
    simp [synthSignal, Book.engine, free, recovers.margin, recovers.allowed,
      recovers.beforeCutoff, inside.1, inside.2]

/-- `_check_tick_exit` on a watched book re-enters exactly a zone that is not consumed, and
never for a put of futures mode. -/
theorem checkTickExit_reenters_iff (flat : book.exits.isOpen = false)
    (watched : book.exits.sweepWatch = some watch) (tick : TrapExit.Tick)
    (recovers : Recovers setup book watch tick.ltp moment) :
    (∃ task, (checkTickExit setup book tick moment).2 = some (.entry task)) ↔
      zoneUid watch.entryZone ∉ book.notifiedUids ∧
        ¬(setup.exits.htfSource = .futures ∧ watch.optType = .pe) := by
  have back := recovers.back
  unfold Back at back
  have handed : checkTickExit setup book tick moment =
      checkSweepReentry setup book tick.ltp moment := by simp [checkTickExit, flat]
  rw [handed, checkSweepReentry, watched]
  dsimp only
  rw [if_neg (by simp [flat])]
  by_cases reversed : setup.exits.htfSource = .futures ∧ watch.optType = .pe
  · -- the price that is back for this put is below the stop, and the handler waits
    rw [if_pos reversed] at back
    rw [if_neg (not_lt.mpr back.le)]
    simp [reversed]
  · rw [if_neg reversed] at back
    rw [if_pos back]
    have flatToo : (book.watching none).exits.isOpen = false := flat
    have still : Recovers setup (book.watching none) watch tick.ltp moment :=
      ⟨recovers.back, recovers.allowed, recovers.beforeCutoff, recovers.inWindow, recovers.margin⟩
    have gates := gatesOpen_iff still flatToo
    rw [and_iff_left reversed, show book.notifiedUids = (book.watching none).notifiedUids from rfl,
      ← gates]
    unfold entering TrapEntry.onEntrySignal
    split
    case isTrue opened => simp [opened]
    case isFalse refused => simp [refused]

end Direct

/-! ## The zone for the rest of the day -/

section Day

/-- What happens to entries: one starts, another handler refreshes what they read, the broker
fills, or the exits change the position. -/
inductive Turn where
  | entry (handler : TrapEntry.Handler)
  | position (position : Option Position)

/-- The entries of a day, beside whatever the exits do. -/
def day (setup : TrapEntry.Setup) :
    Tasks.Program TrapEntry.Engine Turn TrapEntry.Task TrapEntry.Answer where
  start engine turn :=
    match turn with
    | .entry handler => TrapEntry.startHandler setup engine handler
    | .position position => ({ engine with position := position }, none)
  resume := TrapEntry.resumeEntry setup

/-- The zone that a suspended entry is for. -/
def zoneOf : TrapEntry.Task → TrapPosition.HtfZone
  | .primarySpread locals | .atmSpread locals => locals.htfZone
  | .login plan => plan.htfZone
  | .placing attempt | .status attempt _ _ | .sleeping attempt _ _ _ => attempt.plan.htfZone

variable {setup : TrapEntry.Setup} {engine : TrapEntry.Engine}

/-- An outcome of a segment that keeps the consumed zones and goes on with the same one. -/
structure Continues (engine : TrapEntry.Engine) (zone : TrapPosition.HtfZone)
    (outcome : TrapEntry.Engine × Option TrapEntry.Task) : Prop where
  notified : outcome.1.notifiedUids = engine.notifiedUids
  zone : ∀ task ∈ outcome.2, zoneOf task = zone

theorem ends_continues {zone : TrapPosition.HtfZone} {after : TrapEntry.Engine}
    (kept : after.notifiedUids = engine.notifiedUids) : Continues engine zone (after, none) :=
  ⟨kept, by simp⟩

theorem waits_continues {after : TrapEntry.Engine} (task : TrapEntry.Task)
    (kept : after.notifiedUids = engine.notifiedUids) :
    Continues engine (zoneOf task) (after, some task) :=
  ⟨kept, by simp⟩

theorem place_continues (plan : TrapEntry.Plan) (strike : Int) (rest : List Int) :
    Continues engine plan.htfZone (TrapEntry.place setup engine plan strike rest) :=
  waits_continues (.placing ⟨plan, strike, rest, engine.orders.length⟩) rfl

theorem settle_continues (attempt : TrapEntry.Attempt) (orderId : String) (fill : OrderFill) :
    Continues engine attempt.plan.htfZone
      (TrapEntry.settle setup engine attempt orderId fill) := by
  unfold TrapEntry.settle
  split
  · exact ends_continues rfl
  · split
    · exact place_continues _ _ _
    · exact ends_continues rfl

/-- A suspended entry stays with its zone. -/
theorem resumeEntry_continues (task : TrapEntry.Task) (answer : TrapEntry.Answer) :
    Continues engine (zoneOf task) (TrapEntry.resumeEntry setup engine task answer) := by
  unfold TrapEntry.resumeEntry
  split
  case h_1 locals percent =>
    split
    · exact waits_continues (.login (TrapEntry.makePlan setup engine.market locals _)) rfl
    · exact waits_continues (.atmSpread locals) rfl
  case h_2 locals percent =>
    exact waits_continues (.login (TrapEntry.makePlan setup engine.market locals _)) rfl
  case h_3 plan ready =>
    split
    · exact place_continues _ _ _
    · exact ends_continues rfl
  case h_4 attempt orderId => exact waits_continues (.status attempt orderId 0) rfl
  case h_5 attempt => exact ends_continues rfl
  case h_6 attempt orderId poll fill =>
    split
    · exact settle_continues _ _ _
    · exact waits_continues (.sleeping attempt orderId poll fill) rfl
  case h_7 attempt orderId poll => exact ends_continues rfl
  case h_8 attempt orderId poll fill =>
    split
    · exact waits_continues (.status attempt orderId (poll + 1)) rfl
    · exact settle_continues _ _ _
  case h_9 => exact waits_continues _ rfl

/-- A consumed zone, and no entry for it under way. -/
structure Consumed (uid : ZoneUid) (engine : TrapEntry.Engine) (tasks : List TrapEntry.Task) :
    Prop where
  notified : uid ∈ engine.notifiedUids
  others : ∀ task ∈ tasks, zoneUid (zoneOf task) ≠ uid

/-- A signal starts an entry only for a zone that was not consumed. -/
theorem onEntrySignal_consumed {uid : ZoneUid} (signal : Signal)
    (notified : uid ∈ engine.notifiedUids) :
    uid ∈ (TrapEntry.onEntrySignal setup engine signal).1.notifiedUids ∧
      ∀ task ∈ (TrapEntry.onEntrySignal setup engine signal).2, zoneUid (zoneOf task) ≠ uid := by
  unfold TrapEntry.onEntrySignal
  split
  case isFalse refused => exact ⟨notified, by simp⟩
  case isTrue opened =>
    have unseen : zoneUid signal.htfZone ∉ engine.notifiedUids := by
      simp only [TrapEntry.gatesOpen, Bool.and_eq_true, decide_eq_true_eq] at opened
      exact opened.2
    refine ⟨List.mem_cons_of_mem _ notified, ?_⟩
    intro task begun same
    obtain rfl := Option.some.inj begun
    exact unseen (same ▸ notified)

theorem consumed_pool (setup : TrapEntry.Setup) (uid : ZoneUid) :
    Tasks.PoolInvariant (day setup) (fun _ _ _ => True) (fun _ _ _ _ => True)
      (Consumed uid) := by
  apply Tasks.each_pool (fun engine => uid ∈ engine.notifiedUids)
    (fun task => zoneUid (zoneOf task) ≠ uid)
  case split =>
    intro engine tasks
    exact ⟨fun consumed => ⟨consumed.notified, consumed.others⟩,
      fun consumed => ⟨consumed.1, consumed.2⟩⟩
  case starts =>
    intro engine tasks turn notified _
    cases turn with
    | position position => exact ⟨notified, by simp [day]⟩
    | entry handler =>
      cases handler with
      | signal signal => exact onEntrySignal_consumed signal notified
      | refresh market => exact ⟨notified, by simp [day, TrapEntry.startHandler]⟩
      | trade order qty => exact ⟨notified, by simp [day, TrapEntry.startHandler]⟩
  case resumes =>
    intro engine others task answer notified other _
    have continues := @resumeEntry_continues setup engine task answer
    constructor
    · show uid ∈ (TrapEntry.resumeEntry setup engine task answer).1.notifiedUids
      rw [continues.notified]
      exact notified
    · intro next goesOn
      rw [continues.zone next goesOn]
      exact other

end Day

/-- After a plain stop before T1 the watch stands, but no run of the tick loops places an
order, whatever price comes back. The handler by itself would re-enter exactly a zone that is
not consumed, and never for a put of futures mode; while the zone is consumed, nothing else
starts an entry for it. -/
theorem sweep_never_reenters (setup : Setup) (book : Book) (engine : TrapExit.Engine)
    (exit : Exit) (plain : exit.reason = .sl) (whole : engine.pos.t1Hit = false)
    (stopped : book.exits = closeOut engine exit) :
    book.exits.sweepWatch = some (watchFor engine.pos exit) ∧
    (∀ (suspended : List TrapExit.Task) (events : List (Tasks.Event Handler Answer)),
      Idle book.orders
        (Runs.run (Tasks.step (loops setup)) ⟨book, suspended.map .exit⟩ events).shared
        (Runs.run (Tasks.step (loops setup)) ⟨book, suspended.map .exit⟩ events).tasks) ∧
    (∀ candlesLeft tick moment, Recovers setup book (watchFor engine.pos exit) tick.ltp moment →
      ((∃ task, (checkTickExit setup (book.watching
          (some { watchFor engine.pos exit with candlesLeft := candlesLeft })) tick moment).2 =
            some (.entry task)) ↔
        zoneUid engine.pos.htfZone ∉ book.notifiedUids ∧
          ¬(setup.exits.htfSource = .futures ∧ engine.pos.optType = .pe))) ∧
    (zoneUid engine.pos.htfZone ∈ book.notifiedUids →
      ∀ suspended, (∀ task ∈ suspended, zoneUid (zoneOf task) ≠ zoneUid engine.pos.htfZone) →
        ∀ events, ∀ task ∈
            (Runs.run (Tasks.step (day setup.entries)) ⟨book.engine, suspended⟩ events).tasks,
          zoneUid (zoneOf task) ≠ zoneUid engine.pos.htfZone) := by
  have flat : book.exits.isOpen = false := by rw [stopped]; rfl
  refine ⟨?_, ?_, ?_, ?_⟩
  · rw [stopped]
    simp [closeOut, plain, whole]
  · intro suspended events
    apply Tasks.pool_always (idle_pool setup book.orders)
    refine ⟨flat, rfl, ?_⟩
    intro task member
    obtain ⟨exit, -, same⟩ := List.mem_map.mp member
    exact ⟨exit, same.symm⟩
  · intro candlesLeft tick moment recovers
    let watch : SweepWatch := { watchFor engine.pos exit with candlesLeft := candlesLeft }
    exact @checkTickExit_reenters_iff setup (book.watching (some watch)) watch moment flat rfl tick
      ⟨recovers.back, recovers.allowed, recovers.beforeCutoff, recovers.inWindow, recovers.margin⟩
  · intro notified suspended others events
    exact (Tasks.pool_always (consumed_pool setup.entries (zoneUid engine.pos.htfZone))
      ⟨book.engine, suspended⟩ events ⟨notified, others⟩).others

/-! ## A stopped call -/

section Call

def optionSetup : Setup where
  exits := ⟨"NIFTY", "25JAN", "NFO", "C1", .option, false, 0⟩
  entries := ⟨"NIFTY", "NFO", "C1", .option, 75, 1, 50, 2, 3, 870, none, Nat.succ_pos 49⟩
  oneSource := rfl

/-- A lot of calls bought at 100, with the stop at 90. -/
def heldCall : Position where
  leg := .ce1
  optType := .ce
  strike := 24450
  spotAtEntry := 24510
  entryPrice := 100
  slPrice := 90
  trailSl := 90
  t1Price := 130
  totalQty := 75
  t1Qty := 37
  remainingQty := 75
  orderIdEntry := "E1"
  htfZone := { refTs := 1, zoneHigh := 101, zoneLow := 92, sl := 130 }
  counted := by decide
  halved := by decide
  balanced := by decide

/-- The book of this position. Its entry consumed the zone. -/
def callBook : Book where
  exits := ⟨heldCall, true, none, [], []⟩
  noMarginToday := false
  notifiedUids := [zoneUid heldCall.htfZone]
  market := ⟨24510, 24480, "25JAN", some 24450, some 24400, some 24550, some 24600, 100, 90, 0, 0⟩
  orders :=
    [⟨{ brokerSymbol := "NIFTY25JAN24450CE", exchange := "NFO", side := .buy, qty := 75,
        orderType := .market, price := 100, tag := "TRAP_NIFTY_CE", clientId := "C1" }, 75⟩]

def callTick (ltp : Rat) (now : Nat) : Tasks.Event Handler Answer :=
  .start (.optionTick ⟨⟨ltp, .kept⟩, true, false, false, false⟩ ⟨now, true⟩)

/-- The stop is hit at 89 and sold. -/
def plainStop : List (Tasks.Event Handler Answer) :=
  [callTick 89 600, .resume 0 (.exit (.broker true)), .resume 0 (.exit (.placed "X1"))]

def stopExit : Exit := ⟨75, 90, .sl, 89, .close⟩

/-- The price of 95 is back above the stop, in time. -/
theorem call_recovers {book : Book} (margin : book.noMarginToday = false) :
    Recovers optionSetup book (watchFor heldCall stopExit) 95 ⟨601, true⟩ := by
  constructor
  · show if _ then _ else _
    decide +kernel
  · rfl
  · decide
  · intro first last window
    cases window
  · exact margin

theorem sweep_never_reenters_a_call :
    Idle callBook.orders
      (Runs.run (Tasks.step (loops optionSetup))
        ⟨{ callBook with exits := closeOut callBook.exits stopExit }, []⟩ [callTick 95 601]).shared
      (Runs.run (Tasks.step (loops optionSetup))
        ⟨{ callBook with exits := closeOut callBook.exits stopExit }, []⟩ [callTick 95 601]).tasks :=
  (sweep_never_reenters optionSetup { callBook with exits := closeOut callBook.exits stopExit }
    callBook.exits stopExit rfl rfl rfl).2.1 [] _

/-- The call is stopped, its watch stands and the price comes back in time: no order is
sent and nothing is under way. -/
theorem recovered_call_stays_out :
    (Runs.run (Tasks.step (loops optionSetup)) ⟨callBook, []⟩ plainStop).tasks = [] ∧
      (Runs.run (Tasks.step (loops optionSetup)) ⟨callBook, []⟩
        plainStop).shared.exits.sweepWatch = some (watchFor heldCall stopExit) ∧
      Recovers optionSetup
        (Runs.run (Tasks.step (loops optionSetup)) ⟨callBook, []⟩ plainStop).shared
        (watchFor heldCall stopExit) 95 ⟨601, true⟩ ∧
      (Runs.run (Tasks.step (loops optionSetup)) ⟨callBook, []⟩
        (plainStop ++ [callTick 95 601])).shared.orders = callBook.orders ∧
      (Runs.run (Tasks.step (loops optionSetup)) ⟨callBook, []⟩
        (plainStop ++ [callTick 95 601])).tasks = [] := by
  refine ⟨by decide +kernel, by decide +kernel, ?_, by decide +kernel, by decide +kernel⟩
  exact call_recovers (by decide +kernel)

end Call

end OptionChain.SweepReentry
