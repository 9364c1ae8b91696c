import OptionChain.TrapEntry

/-!
# Entries that overlap

The gates of an entry are checked before its first await and the position is
recorded after its last one, so two entries for different zones can both pass the
gates and both buy. `entries_stay_single` says when they do not: an entry that is
about to send its first order finds no position and no other entry waiting for an
order, and the broker tells the truth about the orders the entries give up. The
proof carries `Exclusive`: at most one request is awaited, it is the last one in
the broker's book, and nothing was bought before it.
-/

namespace OptionChain.SingleEntry

open Broker TrapPosition TrapEntry

/-- The requests that the suspended entries wait for. -/
def awaited (tasks : List Task) : List Nat := tasks.filterMap Task.order

theorem awaited_cons (task : Task) (tasks : List Task) :
    awaited (task :: tasks) = task.order.toList ++ awaited tasks := by
  cases holder : task.order <;> simp [awaited, holder]

/-- The quantity of the recorded position. -/
def recorded (engine : Engine) : Int := (engine.position.map Position.totalQty).getD 0

/-- What was bought on one request. -/
def boughtOn (engine : Engine) (order : Nat) : Nat :=
  (engine.orders[order]?.map BuyOrder.bought).getD 0

/-- Never more than one entry is bought, and what is bought is the recorded
position as soon as no entry waits for an order. -/
def Single (setup : Setup) (system : Tasks.System Engine Task) : Prop :=
  bought system.shared ≤ setup.totalQty ∧
    (awaited system.tasks = [] → (bought system.shared : Int) = recorded system.shared)

instance singleDecidable (setup : Setup) (system : Tasks.System Engine Task) :
    Decidable (Single setup system) :=
  inferInstanceAs (Decidable (_ ∧ (_ → _)))

/-- The login after which an entry sends its first order. -/
def ordersNext : Task → Answer → Bool
  | .login _, .broker ready => ready
  | _, _ => false

/-- The broker buys only on requests that an entry still waits for. -/
def MayStart (_engine : Engine) (tasks : List Task) : Handler → Prop
  | .trade order _ => order ∈ awaited tasks
  | .signal _ | .refresh _ => True

/-- An entry sends its first order only without a recorded position and without
another awaited order. A request taken as filled has bought everything, one that
is given up has bought nothing. -/
def MayResume (setup : Setup) (engine : Engine) (others : List Task) (task : Task)
    (answer : Answer) : Prop :=
  (ordersNext task answer → engine.position = none ∧ awaited others = []) ∧
    ∀ order ∈ task.order, ∀ verdict ∈ task.verdict answer,
      boughtOn engine order = if verdict then setup.totalQty else 0

instance mayStartDecidable (engine : Engine) (tasks : List Task) :
    ∀ handler, Decidable (MayStart engine tasks handler)
  | .trade order _ => inferInstanceAs (Decidable (order ∈ awaited tasks))
  | .signal _ | .refresh _ => .isTrue trivial

instance mayResumeDecidable (setup : Setup) (engine : Engine) (others : List Task) (task : Task)
    (answer : Answer) : Decidable (MayResume setup engine others task answer) :=
  inferInstanceAs (Decidable ((_ → _ ∧ _) ∧ ∀ order ∈ task.order,
    ∀ verdict ∈ task.verdict answer, _ = _))

/-- An awaited request is the last one in the broker's book, and nothing was
bought on the earlier ones. -/
def Pending (setup : Setup) (engine : Engine) (order : Nat) : Prop :=
  ∃ (earlier : List BuyOrder) (current : BuyOrder),
    engine.orders = earlier ++ [current] ∧ order = earlier.length ∧
    (earlier.map BuyOrder.bought).sum = 0 ∧ current.request.qty = (setup.totalQty : Int) ∧
    current.bought ≤ setup.totalQty

/-- The invariant of the entries and the broker's book. -/
structure Exclusive (setup : Setup) (engine : Engine) (tasks : List Task) : Prop where
  alone : (awaited tasks).length ≤ 1
  waits : ∀ order ∈ awaited tasks, engine.position = none ∧ Pending setup engine order
  settled : awaited tasks = [] → (bought engine : Int) = recorded engine
  sized : ∀ pos ∈ engine.position, pos.totalQty = setup.totalQty

section Pending

variable {setup : Setup} {engine : Engine} {order : Nat}

/-- All purchases are those on the awaited request. -/
theorem pending_bought (pending : Pending setup engine order) :
    bought engine = boughtOn engine order ∧ bought engine ≤ setup.totalQty := by
  obtain ⟨earlier, current, orders, rfl, nothing, -, most⟩ := pending
  have total : bought engine = current.bought := by
    simp [bought, orders, nothing]
  have here : boughtOn engine earlier.length = current.bought := by
    simp [boughtOn, orders]
  exact ⟨total.trans here.symm, total ▸ most⟩

/-- A purchase on the awaited request keeps it within its quantity. -/
theorem pending_trade (pending : Pending setup engine order) (qty : Nat) :
    Pending setup { engine with orders := engine.orders.modify order (BuyOrder.trade qty) }
      order := by
  obtain ⟨earlier, current, orders, rfl, nothing, size, most⟩ := pending
  have modified : (earlier ++ [current]).modify earlier.length (BuyOrder.trade qty) =
      earlier ++ [current.trade qty] := by
    simp [List.modify_eq_set_getElem?]
  refine ⟨earlier, current.trade qty, by simp only [orders, modified], rfl, nothing, ?_, ?_⟩
  · unfold BuyOrder.trade
    split <;> exact size
  · unfold BuyOrder.trade
    split
    case isTrue fits =>
      rw [size] at fits
      exact_mod_cast fits
    case isFalse => exact most

/-- A new request is pending when nothing was bought before. -/
theorem place_pending (plan : Plan) (strike : Int) (rest : List Int)
    (nothing : bought engine = 0) :
    Pending setup (place setup engine plan strike rest).1 engine.orders.length := by
  refine ⟨engine.orders, ⟨buyRequest setup engine.market plan strike, 0⟩, rfl, rfl, nothing,
    rfl, ?_⟩
  exact Nat.zero_le _

end Pending

section Exclusive

variable {setup : Setup} {engine : Engine} {tasks others : List Task}

/-- The order of the suspended tasks does not matter. -/
theorem exclusive_unordered (permuted : tasks.Perm others)
    (exclusive : Exclusive setup engine tasks) : Exclusive setup engine others := by
  have same : (awaited tasks).Perm (awaited others) := permuted.filterMap Task.order
  constructor
  case alone => simpa [same.length_eq] using exclusive.alone
  case waits =>
    intro order waiting
    exact exclusive.waits order (same.mem_iff.mpr waiting)
  case settled =>
    intro none
    rw [none] at same
    exact exclusive.settled same.eq_nil
  case sized => exact exclusive.sized

/-- Only the position, the broker's book and the awaited requests matter. -/
theorem exclusive_congr {other : Engine} (exclusive : Exclusive setup engine tasks)
    (position : other.position = engine.position) (orders : other.orders = engine.orders)
    (requests : awaited others = awaited tasks) : Exclusive setup other others := by
  constructor
  case alone => rw [requests]; exact exclusive.alone
  case waits =>
    intro order waiting
    rw [requests] at waiting
    obtain ⟨flat, pending⟩ := exclusive.waits order waiting
    refine ⟨position.trans flat, ?_⟩
    simpa only [Pending, orders] using pending
  case settled =>
    intro none
    rw [requests] at none
    simpa only [bought, recorded, orders, position] using exclusive.settled none
  case sized => rw [position]; exact exclusive.sized

/-- An entry that waits for a request is the only one. -/
theorem exclusive_holder {task : Task} {order : Nat} (holder : task.order = some order)
    (exclusive : Exclusive setup engine (task :: others)) :
    awaited others = [] ∧ engine.position = none ∧ Pending setup engine order := by
  have listed : awaited (task :: others) = order :: awaited others := by
    rw [awaited_cons, holder]
    rfl
  have short := exclusive.alone
  rw [listed] at short
  obtain ⟨flat, pending⟩ := exclusive.waits order (by simp [listed])
  refine ⟨?_, flat, pending⟩
  apply List.eq_nil_of_length_eq_zero
  simpa using short

/-- Sending an order when nothing is bought, recorded or awaited. -/
theorem place_exclusive (plan : Plan) (strike : Int) (rest : List Int)
    (flat : engine.position = none) (nothing : bought engine = 0) (free : awaited others = []) :
    Exclusive setup (place setup engine plan strike rest).1
      ((place setup engine plan strike rest).2.toList ++ others) := by
  have listed : awaited ((place setup engine plan strike rest).2.toList ++ others) =
      [engine.orders.length] := by
    simp [place, awaited_cons, Task.order, free]
  constructor
  case alone => simp [listed]
  case waits =>
    intro order waiting
    rw [listed, List.mem_singleton] at waiting
    subst waiting
    exact ⟨flat, place_pending plan strike rest nothing⟩
  case settled => simp [listed]
  case sized => simp [place, flat]

/-- An entry that ends without a position, with nothing bought. -/
theorem dropped_exclusive (flat : engine.position = none) (nothing : bought engine = 0)
    (free : awaited others = []) : Exclusive setup engine others := by
  constructor
  case alone => simp [free]
  case waits => simp [free]
  case settled => simp [recorded, flat, nothing]
  case sized => simp [flat]

/-- The end of a candidate, when the broker's book agrees with its verdict. -/
theorem settle_exclusive (attempt : Attempt) (orderId : String) (fill : OrderFill)
    (flat : engine.position = none) (free : awaited others = [])
    (agrees : bought engine = if filled fill then setup.totalQty else 0) :
    Exclusive setup (settle setup engine attempt orderId fill).1
      ((settle setup engine attempt orderId fill).2.toList ++ others) := by
  unfold settle
  cases done : filled fill with
  | true =>
    have everything : bought engine = setup.totalQty := by simpa [done] using agrees
    constructor
    case alone => simp [free]
    case waits => simp [free]
    case settled =>
      intro _
      exact congrArg Int.ofNat everything
    case sized => simp [makePosition]
  | false =>
    have nothing : bought engine = 0 := by simpa [done] using agrees
    cases rest : attempt.rest with
    | nil => exact dropped_exclusive flat nothing free
    | cons next later => exact place_exclusive attempt.plan next later flat nothing free

/-- The start of a handler beside the suspended entries. -/
theorem start_exclusive (handler : Handler) (exclusive : Exclusive setup engine tasks)
    (allowed : MayStart engine tasks handler) :
    Exclusive setup (startHandler setup engine handler).1
      ((startHandler setup engine handler).2.toList ++ tasks) := by
  cases handler with
  | signal signal =>
    simp only [startHandler, onEntrySignal]
    by_cases passes : gatesOpen setup engine signal = true
    · rw [if_pos passes]
      refine exclusive_congr exclusive rfl rfl ?_
      exact awaited_cons _ tasks
    · rw [if_neg passes]
      exact exclusive
  | refresh market => exact exclusive_congr exclusive rfl rfl rfl
  | trade order qty =>
    have waiting : order ∈ awaited tasks := allowed
    constructor
    case alone => exact exclusive.alone
    case waits =>
      intro other waitingToo
      have short := exclusive.alone
      have same : other = order := by
        obtain ⟨only, listed⟩ : ∃ only, awaited tasks = [only] := by
          apply List.length_eq_one_iff.mp
          have some := List.length_pos_of_mem waiting
          omega
        have first : order = only := by simpa [listed] using waiting
        have second : other = only := by simpa [startHandler, listed] using waitingToo
        rw [first, second]
      subst same
      obtain ⟨flat, pending⟩ := exclusive.waits other waiting
      exact ⟨flat, pending_trade pending qty⟩
    case settled =>
      intro none
      have empty : awaited tasks = [] := none
      simp [empty] at waiting
    case sized => exact exclusive.sized

/-- The answer to a suspended entry beside the others. The cases follow
`resumeEntry`; an answer that is no event of the task changes nothing. -/
theorem resume_exclusive (task : Task) (answer : Answer)
    (exclusive : Exclusive setup engine (task :: others))
    (allowed : MayResume setup engine others task answer) :
    Exclusive setup (resumeEntry setup engine task answer).1
      ((resumeEntry setup engine task answer).2.toList ++ others) := by
  obtain ⟨first, truthful⟩ := allowed
  -- an entry that keeps waiting, for the same request or for none
  have waits (next : Task) (same : next.order = task.order) :
      Exclusive setup engine ([next] ++ others) := by
    apply exclusive_congr exclusive rfl rfl
    rw [List.singleton_append, awaited_cons, awaited_cons, same]
  -- an entry that ends a request, by the verdict of its answer
  have ends (order : Nat) (holder : task.order = some order) (verdict : Bool)
      (judged : task.verdict answer = some verdict) :
      awaited others = [] ∧ engine.position = none ∧
        bought engine = if verdict then setup.totalQty else 0 := by
    obtain ⟨free, flat, pending⟩ := exclusive_holder holder exclusive
    have agrees := truthful order (by simp [holder]) verdict (by simp [judged])
    exact ⟨free, flat, (pending_bought pending).1.trans agrees⟩
  unfold resumeEntry
  split
  case h_1 locals percent =>
    split
    · exact waits _ rfl
    · exact waits _ rfl
  case h_2 locals percent => exact waits _ rfl
  case h_3 plan ready =>
    cases ready with
    | true =>
      obtain ⟨flat, free⟩ := first rfl
      have nothing := exclusive.settled (by rw [awaited_cons, free]; rfl)
      apply place_exclusive plan plan.strike _ flat _ free
      simpa [recorded, flat] using nothing
    | false =>
      refine exclusive_congr exclusive rfl rfl ?_
      rw [awaited_cons]
      rfl
  case h_4 attempt orderId => exact waits _ rfl
  case h_5 attempt =>
    obtain ⟨free, flat, nothing⟩ := ends attempt.order rfl false rfl
    exact dropped_exclusive flat nothing free
  case h_6 attempt orderId poll fill =>
    by_cases ended : terminal fill = true
    · rw [if_pos ended]
      obtain ⟨free, flat, agrees⟩ :=
        ends attempt.order rfl (filled fill) (by simp [Task.verdict, ended])
      exact settle_exclusive attempt orderId fill flat free agrees
    · rw [if_neg ended]
      exact waits _ rfl
  case h_7 attempt orderId poll =>
    obtain ⟨free, flat, nothing⟩ := ends attempt.order rfl false rfl
    exact dropped_exclusive flat nothing free
  case h_8 attempt orderId poll fill =>
    by_cases again : poll + 1 < 6
    · rw [if_pos again]
      exact waits _ rfl
    · rw [if_neg again]
      obtain ⟨free, flat, agrees⟩ :=
        ends attempt.order rfl (filled fill) (by simp [Task.verdict, again])
      exact settle_exclusive attempt orderId fill flat free agrees
  case h_9 => exact waits _ rfl

/-- The invariant contains the property. -/
theorem exclusive_single (exclusive : Exclusive setup engine tasks) :
    Single setup ⟨engine, tasks⟩ := by
  refine ⟨?_, exclusive.settled⟩
  show bought engine ≤ setup.totalQty
  cases waiting : awaited tasks with
  | cons order rest =>
    obtain ⟨-, pending⟩ := exclusive.waits order (by simp [waiting])
    exact (pending_bought pending).2
  | nil =>
    have equal := exclusive.settled waiting
    cases held : engine.position with
    | none =>
      have nothing : bought engine = 0 := by simpa [recorded, held] using equal
      omega
    | some pos =>
      have size := exclusive.sized pos (by simp [held])
      have whole : (bought engine : Int) = setup.totalQty := by
        simpa [recorded, held, size] using equal
      omega

end Exclusive

/-- The obligations of the pool rule. -/
theorem exclusive_pool (setup : Setup) :
    Tasks.PoolInvariant (entries setup) MayStart (MayResume setup) (Exclusive setup) := by
  constructor
  case unordered =>
    intro _ _ _ permuted exclusive
    exact exclusive_unordered permuted exclusive
  case starts =>
    intro _ _ handler exclusive allowed
    exact start_exclusive handler exclusive allowed
  case resumes =>
    intro _ _ task answer exclusive allowed
    exact resume_exclusive task answer exclusive allowed

/-- From a state with no position and nothing bought, every run in which first
orders are sent alone and given-up orders are really dead keeps a single entry. -/
theorem entries_stay_single (setup : Setup) (start : Tasks.System Engine Task)
    (events : List (Tasks.Event Handler Answer)) (idle : start.tasks = [])
    (flat : start.shared.position = none) (nothing : bought start.shared = 0)
    (guarded : Runs.Along (Tasks.step (entries setup))
      (Tasks.Guarded MayStart (MayResume setup)) start events) :
    Single setup (Runs.run (Tasks.step (entries setup)) start events) := by
  have initially : Exclusive setup start.shared start.tasks := by
    rw [idle]
    exact dropped_exclusive flat nothing rfl
  exact exclusive_single (Tasks.pool_run (exclusive_pool setup) start events initially guarded)

section Runs

/-- A NIFTY book of one lot that scans option bars. -/
def niftySetup : Setup where
  und := "NIFTY"
  exchange := "NFO"
  clientId := "C1"
  htfSource := .option
  lotSize := 75
  lotMul := 1
  step := 50
  slBuf := 2
  maxSpreadPct := 3
  cutoff := 870
  entryWin := none
  stepPositive := by decide

/-- A flat book in the morning. -/
def niftyMorning : Tasks.System Engine Task where
  shared :=
    { noMarginToday := false
      position := none
      notifiedUids := []
      market :=
        ⟨24510, 24480, "25JAN", some 24450, some 24400, some 24550, some 24600, 150, 140, 0, 0⟩
      orders := [] }
  tasks := []

/-- A signal on the near leg of a side, from the zone with an upper bound. -/
def zoneSignal (leg : Leg) (optType : OptType) (zoneHigh : Rat) : Signal where
  leg := leg
  optType := optType
  entry := ⟨zoneHigh, zoneHigh - 10⟩
  htfZone := { refTs := 1, zoneHigh := zoneHigh, zoneLow := zoneHigh - 10, sl := zoneHigh + 40 }
  now := 600
  canTrade := true

def completeFill : OrderFill := ⟨75, 151, .complete⟩

/-- The first candidate is cancelled, the second bought in two parts. The second
signal overlaps with it but gets no broker. -/
def cancelledThenBought : List (Tasks.Event Handler Answer) :=
  [.start (.signal (zoneSignal .ce1 .ce 150)), .start (.signal (zoneSignal .pe1 .pe 140)),
    .resume 0 (.spread 1), .resume 0 (.broker true), .resume 1 (.spread 5),
    .resume 0 (.placed "A1"), .resume 0 (.fill ⟨0, 0, .cancelled⟩), .resume 0 (.placed "A2"),
    .start (.trade 1 25), .resume 0 (.fill ⟨25, 151, .open⟩), .resume 1 (.spread 1),
    .start (.trade 1 50), .resume 0 .elapsed, .resume 1 (.broker false),
    .resume 0 (.fill completeFill), .start (.signal (zoneSignal .ce2 .ce 160))]

theorem single_after_a_cancelled_candidate :
    Single niftySetup (Runs.run (Tasks.step (entries niftySetup)) niftyMorning
      cancelledThenBought) :=
  entries_stay_single niftySetup niftyMorning cancelledThenBought rfl rfl rfl (by decide +kernel)

/-- Two zones signal before either has bought; the broker fills both orders. -/
def twoZones : List (Tasks.Event Handler Answer) :=
  [.start (.signal (zoneSignal .ce1 .ce 150)), .start (.signal (zoneSignal .pe1 .pe 140)),
    .resume 0 (.spread 1), .resume 0 (.broker true), .resume 1 (.spread 1),
    .resume 1 (.broker true), .resume 0 (.placed "A1"), .resume 1 (.placed "B1"),
    .start (.trade 0 75), .start (.trade 1 75), .resume 0 (.fill completeFill),
    .resume 0 (.fill completeFill)]

theorem two_zones_buy_twice :
    let reached := Runs.run (Tasks.step (entries niftySetup)) niftyMorning twoZones
    bought reached.shared = 150 ∧ recorded reached.shared = 75 ∧ ¬ Single niftySetup reached := by
  decide +kernel

end Runs

end OptionChain.SingleEntry
