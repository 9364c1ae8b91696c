import OptionChain.SingleEntry

/-!
# What a trap entry buys

An entry works down a ladder of candidate strikes. A candidate whose order is not
reported complete by the sixth status is logged as rejected, without being cancelled,
and the next candidate is ordered in full; a call that raises ends the entry. The
broker may still fill what the entry no longer looks at.

Here one entry runs alone, against a broker that fills its orders when it pleases.
Every order of the entry is either given up or taken as filled, at most one is taken,
and a position is recorded exactly when one is. So the purchases agree with the
position as soon as nothing is ever bought on a given-up order.
-/

namespace OptionChain.TrapLadder

open Broker TrapPosition TrapEntry SingleEntry

/-- No second entry starts. Fills of the broker and fresh market data may come at any
time. -/
def Alone : Tasks.Event Handler Answer → Prop
  | .start (.signal _) => False
  | .start (.refresh _) | .start (.trade _ _) | .resume _ _ => True

instance aloneDecidable : ∀ event, Decidable (Alone event)
  | .start (.signal _) => .isFalse id
  | .start (.refresh _) | .start (.trade _ _) | .resume _ _ => .isTrue trivial

/-- The order whose wait ends in an event, by how it ends. -/
def judged (verdict : Bool) (system : Tasks.System Engine Task) :
    Tasks.Event Handler Answer → List Nat
  | .start _ => []
  | .resume index answer =>
      system.tasks[index]?.toList.flatMap fun task =>
        if task.verdict answer = some verdict then task.order.toList else []

section Ladder

variable (setup : Setup)

/-- One entry from the signal on. -/
def entryRun (start : Engine) (signal : Signal) (events : List (Tasks.Event Handler Answer)) :
    Tasks.System Engine Task :=
  Runs.run (Tasks.step (entries setup)) ⟨start, []⟩ (.start (.signal signal) :: events)

/-- The orders that the entry ends its wait for, given up or taken as filled. -/
def judgedRun (verdict : Bool) (start : Engine) (signal : Signal)
    (events : List (Tasks.Event Handler Answer)) : List Nat :=
  Runs.sent (Tasks.step (entries setup)) (judged verdict) ⟨start, []⟩
    (.start (.signal signal) :: events)

/-- The orders given up: not reported complete at a price by the last status, or lost
with a call that raised. -/
def givenUp : Engine → Signal → List (Tasks.Event Handler Answer) → List Nat :=
  judgedRun setup false

/-- The orders taken as filled. -/
def taken : Engine → Signal → List (Tasks.Event Handler Answer) → List Nat :=
  judgedRun setup true

/-- What was bought on the orders placed after the first ones. -/
def boughtSince (placed : Nat) (engine : Engine) : Nat :=
  ((engine.orders.drop placed).map BuyOrder.bought).sum

/-- All purchases of the entry are its recorded position. -/
def Accounted (start reached : Engine) : Prop :=
  boughtSince start.orders.length reached =
    if start.position = none ∧ reached.position ≠ none then setup.totalQty else 0

instance (start reached : Engine) : Decidable (Accounted setup start reached) :=
  inferInstanceAs (Decidable (_ = _))

/-- What an answer does to an entry: it waits on, ends before its first order, places
an order, gives the last one up, or takes it. -/
inductive Resumed (engine : Engine) (task : Task) (answer : Answer) :
    Engine × Option Task → Prop where
  | waits (next : Task) (same : next.order = task.order) (pending : task.verdict answer = none) :
      Resumed engine task answer (engine, some next)
  | aborts (unplaced : task.order = none) (pending : task.verdict answer = none) :
      Resumed engine task answer (engine, none)
  | places (request : OrderRequest) (next : Task) (last : next.order = some engine.orders.length)
      (ended : task.order = none ∧ task.verdict answer = none ∨ task.verdict answer = some false) :
      Resumed engine task answer
        ({ engine with orders := engine.orders ++ [⟨request, 0⟩] }, some next)
  | givesUp (noMargin : Bool) (ended : task.verdict answer = some false) :
      Resumed engine task answer ({ engine with noMarginToday := noMargin }, none)
  | takes (pos : Position) (ended : task.verdict answer = some true) :
      Resumed engine task answer ({ engine with position := some pos }, none)

variable {setup}

/-- Only a task that waits for an order ends a wait. -/
theorem verdict_order {task : Task} {answer : Answer} {verdict : Bool}
    (ended : task.verdict answer = some verdict) : ∃ order, task.order = some order := by
  cases task with
  | primarySpread locals => simp [Task.verdict] at ended
  | atmSpread locals => simp [Task.verdict] at ended
  | login plan => simp [Task.verdict] at ended
  | placing attempt => exact ⟨attempt.order, rfl⟩
  | status attempt orderId poll => exact ⟨attempt.order, rfl⟩
  | sleeping attempt orderId poll fill => exact ⟨attempt.order, rfl⟩

/-- The end of a candidate by its verdict. -/
theorem settle_resumed {engine : Engine} {task : Task} {answer : Answer} (attempt : Attempt)
    (orderId : String) (fill : OrderFill) (ended : task.verdict answer = some (filled fill)) :
    Resumed engine task answer (settle setup engine attempt orderId fill) := by
  unfold settle
  cases done : filled fill with
  | true => exact .takes _ (done ▸ ended)
  | false =>
    rw [done] at ended
    cases rest : attempt.rest with
    | nil => exact .givesUp true ended
    | cons next later => exact .places _ _ rfl (Or.inr ended)

theorem resumeEntry_resumed (engine : Engine) (task : Task) (answer : Answer) :
    Resumed engine task answer (resumeEntry setup engine task answer) := by
  unfold resumeEntry
  split
  case h_1 locals percent =>
    split
    · exact .waits _ rfl rfl
    · exact .waits _ rfl rfl
  case h_2 locals percent => exact .waits _ rfl rfl
  case h_3 plan ready =>
    cases ready with
    | true => exact .places _ _ rfl (Or.inl ⟨rfl, rfl⟩)
    | false => exact .aborts rfl rfl
  case h_4 attempt orderId => exact .waits _ rfl rfl
  case h_5 attempt => exact .givesUp engine.noMarginToday rfl
  case h_6 attempt orderId poll fill =>
    by_cases ended : terminal fill = true
    · rw [if_pos ended]
      exact settle_resumed attempt orderId fill (by simp [Task.verdict, ended])
    · rw [if_neg ended]
      exact .waits _ rfl (by simp [Task.verdict, ended])
  case h_7 attempt orderId poll => exact .givesUp engine.noMarginToday rfl
  case h_8 attempt orderId poll fill =>
    by_cases again : poll + 1 < 6
    · rw [if_pos again]
      exact .waits _ rfl (by simp [Task.verdict, again])
    · rw [if_neg again]
      exact settle_resumed attempt orderId fill (by simp [Task.verdict, again])
  case h_9 task answer spread atm login placed lost status raised slept =>
    refine .waits _ rfl ?_
    -- the answers that would end the wait are those of the other cases
    rw [Task.verdict.eq_def]
    split
    case h_1 attempt => exact (lost attempt rfl rfl).elim
    case h_2 attempt orderId poll => exact (raised attempt orderId poll rfl rfl).elim
    case h_3 attempt orderId poll fill => exact (status attempt orderId poll fill rfl rfl).elim
    case h_4 attempt orderId poll fill => exact (slept attempt orderId poll fill rfl rfl).elim
    case h_5 => rfl

end Ladder

section Ledger

variable {setup : Setup}

/-- What a run from one system to another did to its orders: those that are waited for
at the start and those placed later are given up, in order, or taken at last. -/
structure Ledger (system reached : Tasks.System Engine Task) (up took : List Nat) : Prop where
  grown : system.shared.orders.length ≤ reached.shared.orders.length
  listed : awaited system.tasks ++ List.range' system.shared.orders.length
    (reached.shared.orders.length - system.shared.orders.length) = up ++ took
  single : took.length ≤ 1
  recorded : reached.shared.position ≠ none ↔ system.shared.position ≠ none ∨ took ≠ []
  idle : system.tasks = [] → up = [] ∧ took = []

/-- An event that ends no wait, places nothing and records nothing. -/
theorem ledger_congr {system next reached : Tasks.System Engine Task} {up took : List Nat}
    (later : Ledger next reached up took) (requests : awaited next.tasks = awaited system.tasks)
    (orders : next.shared.orders.length = system.shared.orders.length)
    (position : next.shared.position = system.shared.position)
    (idle : system.tasks = [] → next.tasks = []) : Ledger system reached up took := by
  constructor
  case grown => exact orders ▸ later.grown
  case listed => rw [← requests, ← orders]; exact later.listed
  case single => exact later.single
  case recorded => rw [← position]; exact later.recorded
  case idle => exact fun none => later.idle (idle none)

theorem awaited_nil : awaited [] = [] := rfl

theorem awaited_single (task : Task) : awaited [task] = task.order.toList := by
  rw [awaited_cons, awaited, List.filterMap_nil, List.append_nil]

/-- The last answer of an entry. Its order, if it has one, is given up or taken. -/
theorem ledger_last {engine next : Engine} {task : Task}
    {reached : Tasks.System Engine Task} {before up took : List Nat} {kept : Bool}
    (later : Ledger ⟨next, []⟩ reached up took) (orders : next.orders = engine.orders)
    (order : task.order.toList = before) (few : before.length ≤ 1)
    (position : next.position ≠ none ↔
      engine.position ≠ none ∨ (if kept then before else []) ≠ []) :
    Ledger ⟨engine, [task]⟩ reached ((if kept then [] else before) ++ up)
      ((if kept then before else []) ++ took) := by
  obtain ⟨rfl, rfl⟩ := later.idle rfl
  have listed := later.listed
  have recorded := later.recorded
  simp only [awaited_nil, List.nil_append, orders] at listed
  rw [or_iff_left (not_not.mpr rfl)] at recorded
  rw [List.append_nil, List.append_nil]
  constructor
  case grown => exact (congrArg List.length orders).ge.trans later.grown
  case listed =>
    rw [awaited_single, order, listed, List.append_nil]
    cases kept <;> simp
  case single => cases kept <;> simp [few]
  case recorded => exact recorded.trans position
  case idle => simp

/-- An answer behind which the next order is placed. -/
theorem ledger_placed {engine : Engine} {task next : Task} {request : OrderRequest}
    {reached : Tasks.System Engine Task} {up took : List Nat}
    (later : Ledger ⟨{ engine with orders := engine.orders ++ [⟨request, 0⟩] }, [next]⟩ reached
      up took)
    (last : next.order = some engine.orders.length) :
    Ledger ⟨engine, [task]⟩ reached (task.order.toList ++ up) took := by
  have grown := later.grown
  have listed := later.listed
  simp only [List.length_append, List.length_singleton] at grown listed
  have placed : engine.orders.length :: List.range' (engine.orders.length + 1)
      (reached.shared.orders.length - (engine.orders.length + 1)) = up ++ took := by
    simpa [awaited_single, last] using listed
  have count : reached.shared.orders.length - engine.orders.length =
      (reached.shared.orders.length - (engine.orders.length + 1)) + 1 := by omega
  constructor
  case grown =>
    change engine.orders.length ≤ _
    omega
  case listed =>
    change awaited [task] ++ List.range' engine.orders.length
      (reached.shared.orders.length - engine.orders.length) = _
    rw [awaited_single, count, List.range'_succ, placed, List.append_assoc]
  case single => exact later.single
  case recorded => exact later.recorded
  case idle => simp

/-- One answer before the rest of a run. The cases are those of `Resumed`. -/
theorem ledger_resumed {engine : Engine} {task : Task} {answer : Answer}
    {resumed : Engine × Option Task} (resume : Resumed engine task answer resumed)
    {reached : Tasks.System Engine Task} {up took : List Nat}
    (later : Ledger ⟨resumed.1, resumed.2.toList⟩ reached up took) :
    Ledger ⟨engine, [task]⟩ reached
      ((if task.verdict answer = some false then task.order.toList else []) ++ up)
      ((if task.verdict answer = some true then task.order.toList else []) ++ took) := by
  cases resume with
  | waits next same pending =>
    rw [pending]
    refine ledger_congr later ?_ rfl rfl (by simp)
    rw [Option.toList_some, awaited_cons, awaited_cons, same]
  | aborts unplaced pending =>
    rw [pending]
    exact @ledger_last _ _ _ _ [] _ _ false later rfl (by rw [unplaced]; rfl) (by simp) (by simp)
  | places request next last ended =>
    have placed := @ledger_placed _ task _ _ _ _ _ later last
    rcases ended with ⟨unplaced, pending⟩ | given
    · rw [pending]
      simpa [unplaced] using placed
    · rw [given]
      simpa using placed
  | givesUp noMargin ended =>
    obtain ⟨order, holder⟩ := verdict_order ended
    rw [ended, holder]
    exact @ledger_last _ _ _ _ [order] _ _ false later rfl (by rw [holder]; rfl) (by simp)
      (by simp)
  | takes pos ended =>
    obtain ⟨order, holder⟩ := verdict_order ended
    rw [ended, holder]
    exact @ledger_last _ _ _ _ [order] _ _ true later rfl (by rw [holder]; rfl) (by simp)
      (by simp)

/-- One event before the rest of a run of a single entry. -/
theorem ledger_step {system reached : Tasks.System Engine Task}
    {event : Tasks.Event Handler Answer} {up took : List Nat} (alone : Alone event)
    (single : system.tasks.length ≤ 1)
    (later : Ledger (Tasks.step (entries setup) system event) reached up took) :
    Ledger system reached (judged false system event ++ up) (judged true system event ++ took) := by
  obtain ⟨engine, tasks⟩ := system
  cases event with
  | start handler =>
    cases handler with
    | signal signal => exact alone.elim
    | refresh market =>
      exact ledger_congr later (by simp [Tasks.step, entries, startHandler]) rfl rfl
        (by simp [Tasks.step, entries, startHandler])
    | trade order qty =>
      exact ledger_congr later (by simp [Tasks.step, entries, startHandler])
        (by simp [Tasks.step, entries, startHandler]) rfl
        (by simp [Tasks.step, entries, startHandler])
  | resume index answer =>
    cases tasks with
    | nil => simpa [Tasks.step, judged] using later
    | cons task rest =>
      have none : rest = [] := by simpa using single
      subst none
      cases index with
      | zero =>
        have next : Ledger ⟨(resumeEntry setup engine task answer).1,
            (resumeEntry setup engine task answer).2.toList⟩ reached up took := by
          simpa [Tasks.step, entries] using later
        simpa [judged] using ledger_resumed (resumeEntry_resumed engine task answer) next
      | succ index => simpa [Tasks.step, judged] using later

/-- A run never has more than its one entry. -/
theorem single_step {system : Tasks.System Engine Task} {event : Tasks.Event Handler Answer}
    (alone : Alone event) (single : system.tasks.length ≤ 1) :
    (Tasks.step (entries setup) system event).tasks.length ≤ 1 := by
  obtain ⟨engine, tasks⟩ := system
  cases event with
  | start handler =>
    cases handler with
    | signal signal => exact alone.elim
    | refresh market => simpa [Tasks.step, entries, startHandler] using single
    | trade order qty => simpa [Tasks.step, entries, startHandler] using single
  | resume index answer =>
    cases tasks with
    | nil => exact single
    | cons task rest =>
      have none : rest = [] := by simpa using single
      subst none
      cases index with
      | zero =>
        have most : (resumeEntry setup engine task answer).2.toList.length ≤ 1 := by
          cases (resumeEntry setup engine task answer).2 <;> simp
        exact (congrArg List.length (List.append_nil _)).trans_le most
      | succ index => exact single

/-- The ledger of a whole run, by induction on its events. -/
theorem ledger_run (events : List (Tasks.Event Handler Answer))
    (system : Tasks.System Engine Task) (alone : ∀ event ∈ events, Alone event)
    (single : system.tasks.length ≤ 1)
    (ended : (Runs.run (Tasks.step (entries setup)) system events).tasks = []) :
    Ledger system (Runs.run (Tasks.step (entries setup)) system events)
      (Runs.sent (Tasks.step (entries setup)) (judged false) system events)
      (Runs.sent (Tasks.step (entries setup)) (judged true) system events) := by
  induction events generalizing system with
  | nil =>
    have done : system.tasks = [] := ended
    constructor
    case grown => exact le_rfl
    case listed => simp [done, awaited_nil, Runs.sent]
    case single => simp [Runs.sent]
    case recorded => simp [Runs.sent]
    case idle => simp [Runs.sent]
  | cons event rest inductionHypothesis =>
    have first : Alone event := alone event (by simp)
    apply ledger_step first single
    apply inductionHypothesis _ _ (single_step first single) ended
    intro later member
    exact alone later (by simp [member])

end Ledger

section Accounts

variable (setup : Setup) (start : Engine) (signal : Signal)
  (events : List (Tasks.Event Handler Answer))

/-- The purchases since a point of the book, order by order. -/
theorem boughtSince_eq (placed : Nat) (engine : Engine) :
    boughtSince placed engine =
      ((List.range' placed (engine.orders.length - placed)).map (boughtOn engine)).sum := by
  have listed : (engine.orders.drop placed).map BuyOrder.bought =
      (List.range' placed (engine.orders.length - placed)).map (boughtOn engine) := by
    apply List.ext_getElem
    · simp
    · intro index inside other
      have here : placed + index < engine.orders.length := by
        simp only [List.length_map, List.length_drop] at inside
        omega
      simp [boughtOn, here]
  rw [boughtSince, listed]

/-- The signal itself places nothing: an entry starts, or a gate is closed. -/
theorem signal_step :
    (Tasks.step (entries setup) ⟨start, []⟩ (.start (.signal signal))).shared.orders =
        start.orders ∧
      (Tasks.step (entries setup) ⟨start, []⟩ (.start (.signal signal))).shared.position =
        start.position ∧
      awaited (Tasks.step (entries setup) ⟨start, []⟩ (.start (.signal signal))).tasks = [] ∧
      (Tasks.step (entries setup) ⟨start, []⟩ (.start (.signal signal))).tasks.length ≤ 1 ∧
      (start.position ≠ none →
        (Tasks.step (entries setup) ⟨start, []⟩ (.start (.signal signal))).tasks = []) := by
  simp only [Tasks.step, entries, startHandler, onEntrySignal]
  by_cases passes : gatesOpen setup start signal = true
  · rw [if_pos passes]
    refine ⟨rfl, rfl, rfl, le_rfl, ?_⟩
    intro held
    have flat : start.position = none := by
      simp only [gatesOpen, Bool.and_eq_true, Option.isNone_iff_eq_none] at passes
      exact passes.1.1.1.1.2
    exact absurd flat held
  · rw [if_neg passes]
    exact ⟨rfl, rfl, rfl, Nat.zero_le 1, fun _ => rfl⟩

variable {setup start signal events}

/-- The ledger of an entry that has ended. -/
theorem entry_ledger (alone : ∀ event ∈ events, Alone event)
    (ended : (entryRun setup start signal events).tasks = []) :
    Ledger (Tasks.step (entries setup) ⟨start, []⟩ (.start (.signal signal)))
      (entryRun setup start signal events) (givenUp setup start signal events)
      (taken setup start signal events) :=
  ledger_run events _ alone (signal_step setup start signal).2.2.2.1 ended

/-- The orders of an entry are those it gave up and the one it took. -/
theorem entry_bought (alone : ∀ event ∈ events, Alone event)
    (ended : (entryRun setup start signal events).tasks = []) :
    boughtSince start.orders.length (entryRun setup start signal events).shared =
      ((givenUp setup start signal events).map
        (boughtOn (entryRun setup start signal events).shared)).sum +
      ((taken setup start signal events).map
        (boughtOn (entryRun setup start signal events).shared)).sum := by
  obtain ⟨orders, -, waiting, -, -⟩ := signal_step setup start signal
  have listed := (entry_ledger alone ended).listed
  rw [waiting, List.nil_append, orders] at listed
  rw [boughtSince_eq, listed, List.map_append, List.sum_append]

/-- A position is recorded exactly when an order is taken. -/
theorem entry_records (alone : ∀ event ∈ events, Alone event)
    (ended : (entryRun setup start signal events).tasks = []) :
    start.position = none ∧ (entryRun setup start signal events).shared.position ≠ none ↔
      taken setup start signal events ≠ [] := by
  obtain ⟨-, position, -, -, closed⟩ := signal_step setup start signal
  have ledger := entry_ledger alone ended
  have recorded := ledger.recorded
  rw [position] at recorded
  constructor
  · rintro ⟨flat, held⟩
    rcases recorded.mp held with before | took
    · exact absurd flat before
    · exact took
  · intro took
    refine ⟨?_, recorded.mpr (Or.inr took)⟩
    by_contra held
    exact took (ledger.idle (closed held)).2

/-- An entry alone, whose broker reports an order complete only if it buys all of it:
the purchases are the recorded position exactly if no given-up order is ever bought. -/
theorem entry_accounts_iff (setup : Setup) (start : Engine) (signal : Signal)
    (events : List (Tasks.Event Handler Answer)) (alone : ∀ event ∈ events, Alone event)
    (ended : (entryRun setup start signal events).tasks = [])
    (truthful : ∀ order ∈ taken setup start signal events,
      boughtOn (entryRun setup start signal events).shared order = setup.totalQty) :
    Accounted setup start (entryRun setup start signal events).shared ↔
      ∀ order ∈ givenUp setup start signal events,
        boughtOn (entryRun setup start signal events).shared order = 0 := by
  have total := entry_bought alone ended
  have records := entry_records alone ended
  have whole : ((taken setup start signal events).map
      (boughtOn (entryRun setup start signal events).shared)).sum =
      if taken setup start signal events ≠ [] then setup.totalQty else 0 := by
    have single := (entry_ledger alone ended).single
    match took : taken setup start signal events with
    | [] => simp
    | [order] => simpa using truthful order (by simp [took])
    | _ :: _ :: _ => simp [took] at single
  unfold Accounted
  rw [total, whole]
  simp only [records]
  rw [Nat.add_eq_right, List.sum_eq_zero_iff_forall_eq_nat]
  simp

end Accounts

section Runs

/-- The first candidate is cancelled unbought, the second is bought in two parts. -/
def boughtInParts : List (Tasks.Event Handler Answer) :=
  [.resume 0 (.spread 1), .resume 0 (.broker true), .resume 0 (.placed "A1"),
    .resume 0 (.fill ⟨0, 0, .cancelled⟩), .resume 0 (.placed "A2"), .start (.trade 1 25),
    .resume 0 (.fill ⟨25, 151, .open⟩), .start (.trade 1 50), .resume 0 .elapsed,
    .resume 0 (.fill completeFill)]

theorem bought_in_parts_accounts :
    Accounted niftySetup niftyMorning.shared
      (entryRun niftySetup niftyMorning.shared (zoneSignal .ce1 .ce 150) boughtInParts).shared :=
  (entry_accounts_iff niftySetup niftyMorning.shared (zoneSignal .ce1 .ce 150) boughtInParts
    (by decide) (by decide) (by decide)).mpr (by decide)

/-- Six polls of an order that stays open. -/
def sixOpenPolls : List (Tasks.Event Handler Answer) :=
  (List.replicate 6 [.resume 0 (.fill ⟨0, 0, .open⟩), .resume 0 .elapsed]).flatten

/-- The first candidate is still open after six polls, the second is bought, and then
the first is filled as well. -/
def filledLate : List (Tasks.Event Handler Answer) :=
  [.resume 0 (.spread 1), .resume 0 (.broker true), .resume 0 (.placed "A1")] ++ sixOpenPolls ++
    [.resume 0 (.placed "A2"), .start (.trade 1 75), .resume 0 (.fill completeFill),
      .start (.trade 0 75)]

theorem late_fill_buys_twice :
    let reached := entryRun niftySetup niftyMorning.shared (zoneSignal .ce1 .ce 150) filledLate
    reached.tasks = [] ∧ (reached.shared.position.map Position.totalQty) = some 75 ∧
      boughtSince 0 reached.shared = 150 ∧
      ¬ Accounted niftySetup niftyMorning.shared reached.shared := by
  decide

end Runs

end OptionChain.TrapLadder
