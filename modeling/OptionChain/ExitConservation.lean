import Mathlib.Algebra.Order.BigOperators.Group.List
import OptionChain.TrapExit

/-!
# Exits that overlap

A full exit reads the remaining quantity before its awaits and clears the
position after them, whatever `_place_exit` returned. Two exits that overlap can
sell the same quantity twice, and an exit that was not accepted clears a position
that is still held. `exits_conserve` says when neither happens: no exit begins
while a full one waits, a full one is accepted last, and every begun exit gets a
broker and an order id. The proof carries `Balanced`, in which a waiting half
exit counts as reserved and a waiting full exit as remaining.
-/

namespace OptionChain.ExitConservation

open Broker TrapPosition TrapExit

/-- Never more than the position is sold, and all of it once it is cleared. -/
def Conserved (engine : Engine) : Prop :=
  sold engine ≤ engine.pos.totalQty ∧ (engine.isOpen = false → sold engine = engine.pos.totalQty)

instance conservedDecidable (engine : Engine) : Decidable (Conserved engine) :=
  inferInstanceAs (Decidable (_ ∧ (_ → _)))

/-- No full exit waits. -/
def NoFull (tasks : List Task) : Prop := ∀ task ∈ tasks, task.exit.full = false

instance noFullDecidable (tasks : List Task) : Decidable (NoFull tasks) :=
  inferInstanceAs (Decidable (∀ task ∈ tasks, _))

/-- A segment that ends in a fresh `_place_exit`. -/
def beginsExit : Option Task → Bool
  | some (.login _) => true
  | some (.placing _ _) | none => false

/-- The login gives a broker, the placement an order id. -/
def goesThrough : Task → Answer → Bool
  | .login _, .broker ready => ready
  | .placing _ _, .placed _ => true
  | _, _ => false

/-- A full exit whose order is being placed. -/
def placesFull : Task → Bool
  | .login _ => false
  | .placing exit _ => exit.full

/-- A handler begins an exit only while no full exit waits. -/
def MayStart (setup : Setup) (engine : Engine) (tasks : List Task) (handler : Handler) : Prop :=
  beginsExit (startHandler setup engine handler).2 → NoFull tasks

/-- Every exit goes through; a full one is accepted after all others, and what
follows a half exit begins another one only while no full exit waits. -/
def MayResume (setup : Setup) (engine : Engine) (others : List Task) (task : Task)
    (answer : Answer) : Prop :=
  goesThrough task answer ∧ (placesFull task → others = []) ∧
    (beginsExit (resumeExit setup engine task answer).2 → NoFull others)

instance mayStartDecidable (setup : Setup) (engine : Engine) (tasks : List Task)
    (handler : Handler) : Decidable (MayStart setup engine tasks handler) :=
  inferInstanceAs (Decidable (_ → NoFull tasks))

instance mayResumeDecidable (setup : Setup) (engine : Engine) (others : List Task) (task : Task)
    (answer : Answer) : Decidable (MayResume setup engine others task answer) :=
  inferInstanceAs (Decidable (_ ∧ (_ → _) ∧ (_ → NoFull others)))

/-- The quantity of a waiting half exit has left `remaining_qty` already. -/
def reserved (task : Task) : Int := if task.exit.full then 0 else task.exit.qty

/-- A waiting exit sells something, and exactly what it is meant to sell. -/
structure Fits (pos : Position) (task : Task) : Prop where
  positive : 0 < task.exit.qty
  share : task.exit.qty = if task.exit.full then pos.remainingQty else pos.t1Qty
  asked : ∀ exit request, task = .placing exit request → request.qty = exit.qty

/-- The invariant of the position, the accepted orders and the waiting exits. -/
structure Balanced (engine : Engine) (tasks : List Task) : Prop where
  accounted : engine.isOpen = true →
    sold engine + (tasks.map reserved).sum + engine.pos.remainingQty = engine.pos.totalQty
  fits : ∀ task ∈ tasks, Fits engine.pos task
  alone : tasks.countP (fun task => task.exit.full) ≤ 1
  cleared : engine.isOpen = false → sold engine = engine.pos.totalQty ∧ tasks = []

/-- Two records of the same lots. -/
structure SameLots (pos other : Position) : Prop where
  total : other.totalQty = pos.totalQty
  half : other.t1Qty = pos.t1Qty
  remaining : other.remainingQty = pos.remainingQty

section Balanced

variable {engine : Engine} {tasks others : List Task}

/-- The order of the waiting exits does not matter. -/
theorem balanced_unordered (permuted : tasks.Perm others) (balanced : Balanced engine tasks) :
    Balanced engine others := by
  constructor
  case accounted =>
    intro isOpen
    rw [← (permuted.map reserved).sum_eq]
    exact balanced.accounted isOpen
  case fits =>
    intro task waiting
    exact balanced.fits task (permuted.mem_iff.mpr waiting)
  case alone =>
    rw [← permuted.countP_eq]
    exact balanced.alone
  case cleared =>
    intro isClosed
    obtain ⟨all, none⟩ := balanced.cleared isClosed
    subst none
    exact ⟨all, permuted.nil_eq.symm⟩

/-- Only the lots, the accepted orders and the open flag matter. -/
theorem balanced_congr {other : Engine} (balanced : Balanced engine tasks)
    (lots : SameLots engine.pos other.pos) (accepted : other.accepted = engine.accepted)
    (isOpen : other.isOpen = engine.isOpen) : Balanced other tasks := by
  have same : sold other = sold engine := by rw [sold, sold, accepted]
  constructor
  case accounted =>
    intro opened
    rw [same, lots.remaining, lots.total]
    exact balanced.accounted (isOpen.symm.trans opened)
  case fits =>
    intro task waiting
    have fit := balanced.fits task waiting
    refine ⟨fit.positive, ?_, fit.asked⟩
    rw [lots.remaining, lots.half]
    exact fit.share
  case alone => exact balanced.alone
  case cleared =>
    intro isClosed
    rw [same, lots.total]
    exact balanced.cleared (isOpen.symm.trans isClosed)

/-- An open position with nothing remaining is a position of no lots: no exit
waits and nothing is missing. -/
theorem balanced_nothing (isOpen : engine.isOpen = true) (nothing : engine.pos.remainingQty ≤ 0)
    (balanced : Balanced engine tasks) : tasks = [] ∧ sold engine = engine.pos.totalQty := by
  have counted := engine.pos.counted
  have remaining := engine.pos.remaining_pos_iff
  have nonneg := engine.pos.remaining_nonneg
  have half := engine.pos.halved
  have idle : tasks = [] := by
    apply List.eq_nil_iff_forall_not_mem.mpr
    intro task waiting
    have fit := balanced.fits task waiting
    have positive := fit.positive
    have share := fit.share
    split at share <;> omega
  subst idle
  have accounted := balanced.accounted isOpen
  simp only [List.map_nil, List.sum_nil] at accounted
  exact ⟨rfl, by omega⟩

/-- A cleared position that was sold completely. -/
theorem balanced_clear (isClosed : engine.isOpen = false)
    (all : sold engine = engine.pos.totalQty) : Balanced engine [] := by
  constructor
  case accounted => simp [isClosed]
  case fits => simp
  case alone => simp
  case cleared => exact fun _ => ⟨all, rfl⟩

/-- A full exit joins the waiting ones, if none of them is full. -/
theorem balanced_full {exit : Exit} (full : exit.full = true) (positive : 0 < exit.qty)
    (share : exit.qty = engine.pos.remainingQty) (isOpen : engine.isOpen = true)
    (free : NoFull tasks) (balanced : Balanced engine tasks) :
    Balanced engine (.login exit :: tasks) := by
  have nobody : tasks.countP (fun task => task.exit.full) = 0 := by
    apply List.countP_eq_zero.mpr
    intro task waiting
    simp [free task waiting]
  constructor
  case accounted =>
    intro opened
    simpa [reserved, full] using balanced.accounted opened
  case fits =>
    intro task waiting
    cases waiting with
    | head => exact ⟨positive, by simpa [full] using share, by simp⟩
    | tail _ waiting => exact balanced.fits task waiting
  case alone => simp [full, nobody]
  case cleared => simp [isOpen]

/-- The first segment of a full exit. With nothing to sell there is nothing left. -/
theorem beginClose_balanced {exit : Exit} (full : exit.full = true)
    (share : exit.qty = engine.pos.remainingQty) (isOpen : engine.isOpen = true)
    (balanced : Balanced engine tasks)
    (free : beginsExit (beginClose engine exit).2 = true → NoFull tasks) :
    Balanced (beginClose engine exit).1 ((beginClose engine exit).2.toList ++ tasks) := by
  unfold beginClose at free ⊢
  by_cases positive : 0 < exit.qty
  · have waits : returnsAtOnce engine exit = false := by
      simp [returnsAtOnce, isOpen, positive]
    simp only [waits, Bool.false_eq_true, if_false] at free ⊢
    exact balanced_full full positive share isOpen (free rfl) balanced
  · have ends : returnsAtOnce engine exit = true := by
      simp [returnsAtOnce, Int.not_lt.mp positive]
    simp only [ends, if_true] at free ⊢
    obtain ⟨none, all⟩ := balanced_nothing isOpen (by omega) balanced
    subst none
    exact balanced_clear rfl all

variable {setup : Setup}

theorem lockFloor_lots (pos : Position) (ltp : Rat) : SameLots pos (lockFloor setup pos ltp) := by
  unfold lockFloor
  split <;> exact ⟨rfl, rfl, rfl⟩

/-- The floor and the stop keep the balance. -/
theorem checkStops_balanced (ltp : Rat) (isOpen : engine.isOpen = true)
    (balanced : Balanced engine tasks)
    (free : beginsExit (checkStops setup engine ltp).2 = true → NoFull tasks) :
    Balanced (checkStops setup engine ltp).1
      ((checkStops setup engine ltp).2.toList ++ tasks) := by
  have locked : Balanced { engine with pos := lockFloor setup engine.pos ltp } tasks :=
    balanced_congr balanced (lockFloor_lots engine.pos ltp) rfl rfl
  unfold checkStops at free ⊢
  simp only at free ⊢
  split at free
  case isTrue broken =>
    rw [if_pos broken]
    exact beginClose_balanced rfl rfl isOpen locked free
  case isFalse whole =>
    rw [if_neg whole]
    split at free
    case isTrue hit =>
      rw [if_pos hit]
      exact beginClose_balanced rfl rfl isOpen locked free
    case isFalse quiet =>
      rw [if_neg quiet]
      exact locked

/-- So does the rest of a tick. -/
theorem settleTick_balanced (tick : Tick) (isOpen : engine.isOpen = true)
    (balanced : Balanced engine tasks)
    (free : beginsExit (settleTick setup engine tick).2 = true → NoFull tasks) :
    Balanced (settleTick setup engine tick).1
      ((settleTick setup engine tick).2.toList ++ tasks) := by
  unfold settleTick at free ⊢
  split at free
  case isTrue trails =>
    rw [if_pos trails]
    cases moved : tick.trail with
    | kept =>
      simp only [moved] at free
      exact checkStops_balanced tick.ltp isOpen balanced free
    | moved trailSl =>
      simp only [moved] at free
      exact checkStops_balanced tick.ltp isOpen
        (balanced_congr balanced ⟨rfl, rfl, rfl⟩ rfl rfl) free
    | raised => exact balanced
  case isFalse plain =>
    rw [if_neg plain]
    exact checkStops_balanced tick.ltp isOpen balanced free

/-- A half exit that has returned, with its share already accounted for. -/
theorem halfDone_balanced (exit : Exit) (orderId : Option String) (isOpen : engine.isOpen = true)
    (balanced : Balanced engine tasks)
    (free : beginsExit (halfDone setup engine exit orderId).2 = true → NoFull tasks) :
    Balanced (halfDone setup engine exit orderId).1
      ((halfDone setup engine exit orderId).2.toList ++ tasks) := by
  have recorded : Balanced (recordHalf engine exit orderId) tasks :=
    balanced_congr balanced ⟨rfl, rfl, rfl⟩ rfl rfl
  unfold halfDone at free ⊢
  cases next : exit.after with
  | tickT1 tick =>
    simp only [next] at free
    exact settleTick_balanced tick isOpen recorded free
  | optionT1 => exact recorded
  | close => exact recorded

/-- The first segment of a half exit: what T1 takes from the remainder is reserved
by the waiting exit. -/
theorem beginHalf_balanced {marked : Engine} {exit : Exit} (half : exit.full = false)
    (share : exit.qty = engine.pos.t1Qty) (total : marked.pos.totalQty = engine.pos.totalQty)
    (same : marked.pos.t1Qty = engine.pos.t1Qty)
    (taken : marked.pos.remainingQty = engine.pos.remainingQty - engine.pos.t1Qty)
    (accepted : marked.accepted = engine.accepted) (isOpen : engine.isOpen = true)
    (stillOpen : marked.isOpen = true) (balanced : Balanced engine tasks)
    (free : beginsExit (beginHalf setup marked exit).2 = true → NoFull tasks) :
    Balanced (beginHalf setup marked exit).1
      ((beginHalf setup marked exit).2.toList ++ tasks) := by
  have counted := engine.pos.counted
  have halved := engine.pos.halved
  unfold beginHalf at free ⊢
  by_cases positive : 0 < exit.qty
  · have waits : returnsAtOnce marked exit = false := by
      simp [returnsAtOnce, stillOpen, positive]
    simp only [waits, Bool.false_eq_true, if_false] at free ⊢
    have nobody : NoFull tasks := free rfl
    have accounted := balanced.accounted isOpen
    constructor
    case accounted =>
      intro _
      have equal : sold marked = sold engine := by rw [sold, sold, accepted]
      simp only [Option.toList_some, List.singleton_append, List.map_cons, List.sum_cons, reserved,
        Task.exit_login, half, Bool.false_eq_true, if_false]
      rw [equal, taken, total, share]
      omega
    case fits =>
      intro task waiting
      cases waiting with
      | head => exact ⟨positive, by simpa [half, same] using share, by simp⟩
      | tail _ waiting =>
        have fit := balanced.fits task waiting
        refine ⟨fit.positive, ?_, fit.asked⟩
        have meant := fit.share
        rw [nobody task waiting] at meant ⊢
        simpa [same] using meant
    case alone => simpa [half] using balanced.alone
    case cleared => simp [stillOpen]
  · have ends : returnsAtOnce marked exit = true := by
      simp [returnsAtOnce, Int.not_lt.mp positive]
    simp only [ends, if_true] at free ⊢
    have lots : SameLots engine.pos marked.pos := ⟨total, same, by omega⟩
    apply halfDone_balanced exit none stillOpen _ free
    exact balanced_congr balanced lots accepted (stillOpen.trans isOpen.symm)

/-- `_check_option_t1` keeps the balance. -/
theorem checkOptionT1_balanced (optLtp : Rat) (isOpen : engine.isOpen = true)
    (balanced : Balanced engine tasks)
    (free : beginsExit (checkOptionT1 setup engine optLtp).2 = true → NoFull tasks) :
    Balanced (checkOptionT1 setup engine optLtp).1
      ((checkOptionT1 setup engine optLtp).2.toList ++ tasks) := by
  unfold checkOptionT1 at free ⊢
  split at free
  case isTrue whole =>
    rw [dif_pos whole]
    split at free
    case isTrue reached =>
      rw [if_pos reached]
      exact beginHalf_balanced rfl rfl rfl rfl rfl rfl isOpen isOpen balanced free
    case isFalse below =>
      rw [if_neg below]
      exact balanced
  case isFalse hit =>
    rw [dif_neg hit]
    exact balanced

/-- `_check_tick_exit` keeps the balance. -/
theorem checkTickExit_balanced (tick : Tick) (isOpen : engine.isOpen = true)
    (balanced : Balanced engine tasks)
    (free : beginsExit (checkTickExit setup engine tick).2 = true → NoFull tasks) :
    Balanced (checkTickExit setup engine tick).1
      ((checkTickExit setup engine tick).2.toList ++ tasks) := by
  unfold checkTickExit at free ⊢
  split at free
  case isTrue whole =>
    rw [dif_pos whole]
    split at free
    case isTrue reached =>
      rw [if_pos reached]
      exact beginHalf_balanced rfl rfl rfl rfl rfl rfl isOpen isOpen balanced free
    case isFalse below =>
      rw [if_neg below]
      exact settleTick_balanced tick isOpen balanced free
  case isFalse hit =>
    rw [dif_neg hit]
    exact settleTick_balanced tick isOpen balanced free

/-- The start of a handler beside the waiting exits. -/
theorem start_balanced (handler : Handler) (balanced : Balanced engine tasks)
    (allowed : MayStart setup engine tasks handler) :
    Balanced (startHandler setup engine handler).1
      ((startHandler setup engine handler).2.toList ++ tasks) := by
  unfold MayStart at allowed
  cases handler with
  | optionTick tick =>
    simp only [startHandler, optTick] at allowed ⊢
    split at allowed
    case isTrue isOpen =>
      rw [if_pos isOpen]
      split at allowed
      case isTrue tracked =>
        rw [if_pos tracked]
        exact checkTickExit_balanced tick.toTick isOpen balanced allowed
      case isFalse untracked =>
        rw [if_neg untracked]
        split at allowed
        case isTrue near =>
          rw [if_pos near]
          exact checkOptionT1_balanced tick.ltp isOpen balanced allowed
        case isFalse far =>
          rw [if_neg far]
          exact balanced
    case isFalse isClosed =>
      rw [if_neg isClosed]
      exact balanced
  | indexTick tick =>
    simp only [startHandler, idxTick] at allowed ⊢
    split at allowed
    case isTrue tracked =>
      rw [if_pos tracked]
      exact checkTickExit_balanced tick tracked.2.1 balanced allowed
    case isFalse untracked =>
      rw [if_neg untracked]
      exact balanced
  | stop trailSl =>
    simp only [startHandler, moveStop]
    split
    · exact balanced_congr balanced ⟨rfl, rfl, rfl⟩ rfl rfl
    · exact balanced
  | endOfDay eodLtp =>
    simp only [startHandler, eodSquareOff] at allowed ⊢
    split at allowed
    case isTrue left =>
      rw [if_pos left]
      exact beginClose_balanced rfl rfl left.1 balanced allowed
    case isFalse nothing =>
      rw [if_neg nothing]
      cases isOpen : engine.isOpen with
      | true =>
        obtain ⟨none, all⟩ :=
          balanced_nothing isOpen (Int.not_lt.mp fun left => nothing ⟨isOpen, left⟩) balanced
        subst none
        exact balanced_clear rfl all
      | false => exact balanced_congr balanced ⟨rfl, rfl, rfl⟩ rfl isOpen.symm

/-- A login that goes through leaves the exit waiting for its order. -/
theorem login_balanced (exit : Exit) (isOpen : engine.isOpen = true)
    (balanced : Balanced engine (.login exit :: others)) :
    Balanced (resumeExit setup engine (.login exit) (.broker true)).1
      ((resumeExit setup engine (.login exit) (.broker true)).2.toList ++ others) := by
  have fit := balanced.fits (.login exit) (by simp)
  simp only [resumeExit, isOpen, if_true]
  constructor
  case accounted => exact balanced.accounted
  case fits =>
    intro task waiting
    cases waiting with
    | head =>
      refine ⟨fit.positive, fit.share, ?_⟩
      rintro _ _ ⟨⟩
      rfl
    | tail _ waiting => exact balanced.fits task (List.mem_cons_of_mem _ waiting)
  case alone =>
    have alone := balanced.alone
    rw [List.countP_cons] at alone
    exact (List.countP_cons ..).trans_le alone
  case cleared => simp [isOpen]

/-- An accepted order sells what its exit is meant to sell. -/
theorem sold_placed {exit : Exit} {request : OrderRequest}
    (fit : Fits engine.pos (.placing exit request)) :
    sold { engine with accepted := engine.accepted ++ [request] } = sold engine + exit.qty := by
  have quantity : request.qty = exit.qty := fit.asked exit request rfl
  simp [sold, quantity]

/-- An accepted full exit that waits alone sells the rest. -/
theorem placed_full_balanced {exit : Exit} {request : OrderRequest} (orderId : String)
    (isOpen : engine.isOpen = true) (full : exit.full = true)
    (balanced : Balanced engine [.placing exit request]) :
    Balanced (resumeExit setup engine (.placing exit request) (.placed orderId)).1
      (resumeExit setup engine (.placing exit request) (.placed orderId)).2.toList := by
  have fit := balanced.fits (.placing exit request) (by simp)
  have accounted := balanced.accounted isOpen
  have share := fit.share
  have next : exit.after = .close := by simpa [Exit.full] using full
  simp only [resumeExit, returned, next]
  apply balanced_clear rfl
  simp only [reserved, Task.exit_placing, full, if_true, List.map_cons, List.sum_cons,
    List.map_nil, List.sum_nil] at accounted share
  calc sold (closeOut { engine with accepted := engine.accepted ++ [request] } exit)
      = sold engine + exit.qty := sold_placed fit
    _ = engine.pos.totalQty := by omega

/-- An accepted half exit is booked, and the stops are looked at again. -/
theorem placed_half_balanced {exit : Exit} {request : OrderRequest} (orderId : String)
    (isOpen : engine.isOpen = true) (half : exit.full = false)
    (balanced : Balanced engine (.placing exit request :: others))
    (free : beginsExit (resumeExit setup engine (.placing exit request) (.placed orderId)).2 =
      true → NoFull others) :
    Balanced (resumeExit setup engine (.placing exit request) (.placed orderId)).1
      ((resumeExit setup engine (.placing exit request) (.placed orderId)).2.toList ++
        others) := by
  have fit := balanced.fits (.placing exit request) (by simp)
  have accounted := balanced.accounted isOpen
  simp only [List.map_cons, List.sum_cons, reserved, Task.exit_placing, half,
    Bool.false_eq_true, if_false] at accounted
  have placed : Balanced { engine with accepted := engine.accepted ++ [request] } others := by
    constructor
    case accounted =>
      intro _
      rw [sold_placed fit]
      simp only
      omega
    case fits =>
      intro task waiting
      exact balanced.fits task (List.mem_cons_of_mem _ waiting)
    case alone => simpa [half] using balanced.alone
    case cleared => simp [isOpen]
  have same : resumeExit setup engine (.placing exit request) (.placed orderId) =
      halfDone setup { engine with accepted := engine.accepted ++ [request] } exit
        (some orderId) := by
    cases next : exit.after with
    | close => simp [Exit.full, next] at half
    | optionT1 => simp [resumeExit, returned, next]
    | tickT1 tick => simp [resumeExit, returned, next]
  rw [same] at free ⊢
  exact halfDone_balanced exit (some orderId) isOpen placed free

/-- The answer to a waiting exit beside the others. -/
theorem resume_balanced (task : Task) (answer : Answer)
    (balanced : Balanced engine (task :: others))
    (allowed : MayResume setup engine others task answer) :
    Balanced (resumeExit setup engine task answer).1
      ((resumeExit setup engine task answer).2.toList ++ others) := by
  obtain ⟨through, last, free⟩ := allowed
  have isOpen : engine.isOpen = true := by
    by_contra isClosed
    have none := (balanced.cleared (Bool.not_eq_true _ ▸ isClosed)).2
    simp at none
  cases task with
  | login exit =>
    cases answer with
    | broker ready =>
      have answered : ready = true := through
      subst answered
      exact login_balanced exit isOpen balanced
    | placed orderId => simp [goesThrough] at through
    | raised => simp [goesThrough] at through
  | placing exit request =>
    cases answer with
    | broker ready => simp [goesThrough] at through
    | raised => simp [goesThrough] at through
    | placed orderId =>
      cases full : exit.full with
      | true =>
        have none : others = [] := last (by simp [placesFull, full])
        subst none
        rw [List.append_nil]
        exact placed_full_balanced orderId isOpen full balanced
      | false => exact placed_half_balanced orderId isOpen full balanced free

/-- What is reserved is never negative. -/
theorem reserved_nonneg (balanced : Balanced engine tasks) : 0 ≤ (tasks.map reserved).sum := by
  apply List.sum_nonneg
  intro qty listed
  obtain ⟨task, waiting, rfl⟩ := List.mem_map.mp listed
  have positive := (balanced.fits task waiting).positive
  unfold reserved
  split <;> omega

/-- The invariant contains the property. -/
theorem balanced_conserved (balanced : Balanced engine tasks) : Conserved engine := by
  refine ⟨?_, fun isClosed => (balanced.cleared isClosed).1⟩
  cases isOpen : engine.isOpen with
  | true =>
    have accounted := balanced.accounted isOpen
    have waiting := reserved_nonneg balanced
    have remaining := engine.pos.remaining_nonneg
    omega
  | false =>
    have all := (balanced.cleared isOpen).1
    omega

end Balanced

/-- The obligations of the pool rule. -/
theorem balanced_pool (setup : Setup) :
    Tasks.PoolInvariant (exits setup) (MayStart setup) (MayResume setup) Balanced := by
  constructor
  case unordered =>
    intro _ _ _ permuted balanced
    exact balanced_unordered permuted balanced
  case starts =>
    intro _ _ handler balanced allowed
    exact start_balanced handler balanced allowed
  case resumes =>
    intro _ _ task answer balanced allowed
    exact resume_balanced task answer balanced allowed

/-- From an open position of which exactly the missing part was sold, every run
whose exits go through one full exit last conserves the quantity. -/
theorem exits_conserve (setup : Setup) (start : Tasks.System Engine Task)
    (events : List (Tasks.Event Handler Answer)) (idle : start.tasks = [])
    (isOpen : start.shared.isOpen = true)
    (before : sold start.shared = start.shared.pos.totalQty - start.shared.pos.remainingQty)
    (guarded : Runs.Along (Tasks.step (exits setup))
      (Tasks.Guarded (MayStart setup) (MayResume setup)) start events) :
    Conserved (Runs.run (Tasks.step (exits setup)) start events).shared := by
  have initially : Balanced start.shared start.tasks := by
    rw [idle]
    constructor
    case accounted =>
      intro _
      simp only [List.map_nil, List.sum_nil]
      omega
    case fits => simp
    case alone => simp
    case cleared => simp [isOpen]
  exact balanced_conserved (Tasks.pool_run (balanced_pool setup) start events initially guarded)

section Runs

/-- A crude-oil book: zones, stops and the trail are futures prices. -/
def crudeSetup : Setup where
  und := "CRUDEOIL"
  expiry := "25JAN"
  exchange := "MCX"
  clientId := "C1"
  htfSource := .futures
  noTargetTsl := false
  profitFloor := 0

/-- A fresh call position of one lot. -/
def crudePosition : Position where
  leg := .fut
  optType := .ce
  strike := 5950
  spotAtEntry := 6000
  entryPrice := 200
  slPrice := 5960
  trailSl := 5960
  t1Price := 260
  totalQty := 100
  t1Qty := 50
  remainingQty := 100
  orderIdEntry := "E1"
  htfZone := { refTs := 1, zoneHigh := 6010, zoneLow := 5970, sl := 6050 }
  counted := by decide
  halved := by decide
  balanced := by decide

def crudeOpen : Tasks.System Engine Task where
  shared := ⟨crudePosition, true, none, [], []⟩
  tasks := []

/-- T1 still waits when the future falls back to the entry; T1 is accepted first. -/
def t1ThenTrail : List (Tasks.Event Handler Answer) :=
  [.start (.stop 5980), .start (.optionTick ⟨⟨265, .kept⟩, true, false, false, false⟩),
    .start (.indexTick ⟨5995, .kept⟩), .resume 0 (.broker true), .resume 1 (.broker true),
    .resume 0 (.placed "X1"), .resume 0 (.placed "X2"), .start (.endOfDay 240)]

theorem conserved_after_t1_and_trail :
    Conserved (Runs.run (Tasks.step (exits crudeSetup)) crudeOpen t1ThenTrail).shared :=
  exits_conserve crudeSetup crudeOpen t1ThenTrail rfl rfl rfl (by decide)

/-- The stop is being sold when the day ends; the broker accepts both orders. -/
def stopAndEndOfDay : List (Tasks.Event Handler Answer) :=
  [.start (.indexTick ⟨5950, .kept⟩), .resume 0 (.broker true), .start (.endOfDay 150),
    .resume 1 (.broker true), .resume 0 (.placed "X1"), .resume 0 (.placed "X2")]

/-- The stop order is refused. -/
def refusedStop : List (Tasks.Event Handler Answer) :=
  [.start (.indexTick ⟨5950, .kept⟩), .resume 0 (.broker true), .resume 0 .raised]

theorem exits_sell_twice_or_never :
    let both := (Runs.run (Tasks.step (exits crudeSetup)) crudeOpen stopAndEndOfDay).shared
    let refused := (Runs.run (Tasks.step (exits crudeSetup)) crudeOpen refusedStop).shared
    (sold both = 200 ∧ ¬ Conserved both) ∧
      refused.isOpen = false ∧ sold refused = 0 ∧ ¬ Conserved refused := by
  decide

end Runs

end OptionChain.ExitConservation
