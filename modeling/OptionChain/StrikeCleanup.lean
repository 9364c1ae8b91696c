import Mathlib.Data.List.Count
import Mathlib.Data.List.Infix
import Mathlib.Logic.Function.Basic
import OptionChain.StrikeRebalancer

/-!
# The cleanup of dead strikes

`StrikeCleanup` counts the open positions of each strike. After a close it unsubscribes the
strike unless positions are left or the strike is active and not pinned. The second test is
meant to spare the ATM window, but a fill pins its strike, so it does not. A cleanup waits for
the feeder before it releases the strike, and it tests nothing again.

Fill loop and system loop each wait for their own cleanup. A close by
`notify_position_closed` schedules a task. Other tasks run during every wait, the rebalancer
among them, whose state is taken to change arbitrarily.
-/

namespace OptionChain.StrikeCleanup

open Runs
open StrikeRebalancer (UnderlyingState strikeWindow)

/-- An underlying and a strike. -/
abbrev Key := String × Rat

/-- What changes an open count. -/
inductive Move where
  | opened
  | closed
deriving DecidableEq

/-- A count after a move, never below zero. -/
def clip (count : Nat) : Move → Nat
  | .opened => count + 1
  | .closed => if 0 < count then count - 1 else count

inductive OrderSide where
  | buy
  | sell
deriving DecidableEq

inductive OrderStatus where
  | pending
  | open
  | complete
  | cancelled
  | rejected
  | unknown
deriving DecidableEq

/-- `OrderFill`, and the two attributes that a fill may carry besides. -/
structure OrderFill where
  brokerSymbol : String
  side : OrderSide
  status : OrderStatus
  underlying : Option String := none
  strike : Option Rat := none

inductive SysEvent where
  | preOpen
  | marketOpen
  | marketClose
  | killSwitch
  | feederDown
  | feederRestored
  | dailyReset
  | gapOpen
  | positionClosed
deriving DecidableEq

structure SystemEvent where
  code : SysEvent
  message : String

/-- The settings, and Python's `float` of a text, where the text is a number. -/
structure Env where
  monitoredIndices : List String
  strikeStep : String → Rat
  chainDepth : Nat
  float : String → Option Rat

/-- `_extract_underlying`. -/
def extractUnderlying (symbol : String) : Option String :=
  ["BANKNIFTY", "MIDCPNIFTY", "FINNIFTY", "SENSEX", "NIFTY"].find? (fun underlying =>
    symbol.toUpper.toList.tails.any (fun rest => underlying.toList.isPrefixOf rest))

/-- The matches of `\d{4,6}` behind some digits that are read already. -/
def strikeMatches (digits : List Char) : List Char → List (List Char)
  | [] => if 4 ≤ digits.length then [digits] else []
  | letter :: rest =>
      if letter.isDigit then
        if digits.length = 5 then (digits ++ [letter]) :: strikeMatches [] rest
        else strikeMatches (digits ++ [letter]) rest
      else (if 4 ≤ digits.length then [digits] else []) ++ strikeMatches [] rest

/-- The number that some digits write. -/
def number (digits : List Char) : Rat :=
  (digits.foldl (fun value digit => 10 * value + (digit.toNat - '0'.toNat)) 0 : Nat)

/-- `_extract_strike`. -/
def extractStrike (symbol : String) : Option Rat :=
  (strikeMatches [] symbol.toList).getLast?.map number

/-- The strike of a fill, if one is found in it. -/
def OrderFill.key (fill : OrderFill) : Option Key :=
  let underlying := (fill.underlying.filter (· ≠ "")).or (extractUnderlying fill.brokerSymbol)
  let strike := (fill.strike.filter (· ≠ 0)).or (extractStrike fill.brokerSymbol)
  match underlying, strike with
  | some underlying, some strike =>
      if underlying = "" ∨ strike = 0 then none else some (underlying, strike)
  | _, _ => none

/-- The strike of a system event, if it closes a position. -/
def SystemEvent.key (env : Env) (event : SystemEvent) : Option Key :=
  if event.code = .positionClosed then
    match event.message.splitOn ":" with
    | underlying :: strike :: _ => (env.float strike).map (fun value => (underlying.toUpper, value))
    | _ => none
  else none

/-- A call of the feeder or of the rebalancer. -/
inductive Call where
  | unsubscribeTokens
  | unpinStrike
deriving DecidableEq

/-- A call for a strike, with its open count at that moment and whether it is in the ATM
window. -/
structure Effect where
  call : Call
  key : Key
  count : Nat
  inside : Bool
deriving DecidableEq

/-- Who waits for a cleanup. -/
inductive Owner where
  | fillLoop
  | sysLoop
  | task
deriving DecidableEq

/-- The tasks that have not started yet, the cleanups that wait for the feeder, and what has
been registered and called so far. -/
structure Cleanup where
  openCounts : Key → Nat := fun _ => 0
  rebalancer : String → Option UnderlyingState
  scheduled : List Key := []
  waiting : List (Owner × Key) := []
  cleanupsPerformed : Nat := 0
  cleanupsSkippedInWindow : Nat := 0
  moves : List (Key × Move) := []
  effects : List Effect := []

namespace Cleanup

variable (env : Env)

def start : Cleanup where
  rebalancer underlying := if underlying ∈ env.monitoredIndices then some {} else none

def activeStrikes (cleanup : Cleanup) (underlying : String) : Finset Rat :=
  ((cleanup.rebalancer underlying).map UnderlyingState.activeStrikes).getD ∅

def pinnedStrikes (cleanup : Cleanup) (underlying : String) : Finset Rat :=
  ((cleanup.rebalancer underlying).map UnderlyingState.pinnedStrikes).getD ∅

/-- Whether a strike is in the current ATM window of its underlying. -/
def inWindow (cleanup : Cleanup) (key : Key) : Bool :=
  match (cleanup.rebalancer key.1).bind UnderlyingState.currentAtm with
  | none => false
  | some atm => decide (key.2 ∈ strikeWindow atm (env.strikeStep key.1) env.chainDepth)

/-- Whether a loop waits for its cleanup. -/
def busy (cleanup : Cleanup) (owner : Owner) : Bool :=
  cleanup.waiting.any (fun waiter => decide (waiter.1 = owner))

/-- The moves of one strike. -/
def movesOf (cleanup : Cleanup) (key : Key) : List Move :=
  (cleanup.moves.filter (fun entry => decide (entry.1 = key))).map Prod.snd

def register (cleanup : Cleanup) (key : Key) (move : Move) : Cleanup :=
  { cleanup with
    openCounts := Function.update cleanup.openCounts key (clip (cleanup.openCounts key) move)
    moves := cleanup.moves ++ [(key, move)] }

def call (cleanup : Cleanup) (call : Call) (key : Key) : Cleanup :=
  { cleanup with
    effects := cleanup.effects ++
      [⟨call, key, cleanup.openCounts key, cleanup.inWindow env key⟩] }

/-- `_cleanup`, up to the wait for the feeder. -/
def begin (cleanup : Cleanup) (owner : Owner) (key : Key) : Cleanup :=
  if 0 < cleanup.openCounts key then cleanup
  else if key.2 ∈ cleanup.activeStrikes key.1 ∧ key.2 ∉ cleanup.pinnedStrikes key.1 then
    { cleanup with cleanupsSkippedInWindow := cleanup.cleanupsSkippedInWindow + 1 }
  else
    { cleanup.call env .unsubscribeTokens key with waiting := cleanup.waiting ++ [(owner, key)] }

/-- The rebalancer without a strike. -/
def release (cleanup : Cleanup) (key : Key) : Cleanup :=
  { cleanup with
    rebalancer := Function.update cleanup.rebalancer key.1
      ((cleanup.rebalancer key.1).map (fun state =>
        { state.unpinStrike key.2 with activeStrikes := state.activeStrikes.erase key.2 })) }

/-- `_cleanup`, from the return of the feeder on. An exception there is caught. -/
def finish (cleanup : Cleanup) (index : Nat) (succeeded : Bool) : Cleanup :=
  match cleanup.waiting[index]? with
  | none => cleanup
  | some (_, key) =>
      let cleanup := { cleanup with
        waiting := cleanup.waiting.eraseIdx index
        cleanupsPerformed := cleanup.cleanupsPerformed + (if succeeded then 1 else 0) }
      (cleanup.call env .unpinStrike key).release key

end Cleanup

/-- What is handled next: an item of one of the two queues, a call of the public interface, a
task that starts, a return of the feeder, or any change of the rebalancer's state. -/
inductive Event where
  | fill (fill : OrderFill)
  | system (event : SystemEvent)
  | notifyPositionOpened (key : Key)
  | notifyPositionClosed (key : Key) (looping : Bool)
  | startTask (index : Nat)
  | feederReturns (index : Nat) (succeeded : Bool)
  | rebalance (underlying : String) (next : UnderlyingState)

/-- A step of the event loop. A loop takes nothing from its queue while it waits. -/
def step (env : Env) (cleanup : Cleanup) : Event → Cleanup
  | .fill fill =>
      if cleanup.busy .fillLoop then cleanup
      else
        match fill.key with
        | none => cleanup
        | some key =>
            if fill.side = .buy then cleanup.register key .opened
            else if fill.side = .sell ∨ fill.status ∈ [.cancelled, .rejected] then
              (cleanup.register key .closed).begin env .fillLoop key
            else cleanup
  | .system event =>
      if cleanup.busy .sysLoop then cleanup
      else
        match event.key env with
        | none => cleanup
        | some key => (cleanup.register key .closed).begin env .sysLoop key
  | .notifyPositionOpened key => cleanup.register key .opened
  | .notifyPositionClosed key looping =>
      { cleanup.register key .closed with
        scheduled := cleanup.scheduled ++ (if looping then [key] else []) }
  | .startTask index =>
      match cleanup.scheduled[index]? with
      | none => cleanup
      | some key =>
          { cleanup with scheduled := cleanup.scheduled.eraseIdx index }.begin env .task key
  | .feederReturns index succeeded => cleanup.finish env index succeeded
  | .rebalance underlying next =>
      { cleanup with
        rebalancer := Function.update cleanup.rebalancer underlying
          ((cleanup.rebalancer underlying).map (fun _ => next)) }

/-- The move that an event registers. -/
def moved (env : Env) (cleanup : Cleanup) : Event → Option (Key × Move)
  | .fill fill =>
      if cleanup.busy .fillLoop then none
      else fill.key.map (fun key => (key, if fill.side = .buy then .opened else .closed))
  | .system event =>
      if cleanup.busy .sysLoop then none else (event.key env).map (fun key => (key, .closed))
  | .notifyPositionOpened key => some (key, .opened)
  | .notifyPositionClosed key _ => some (key, .closed)
  | _ => none

/-- Strikes are unsubscribed and released only without open positions and outside the ATM
window. -/
def Safe (cleanup : Cleanup) : Prop :=
  ∀ effect ∈ cleanup.effects, effect.count = 0 ∧ effect.inside = false

/-- Every count is opens minus closes, clipped at zero. -/
def Counted (cleanup : Cleanup) : Prop :=
  ∀ key, cleanup.openCounts key =
    (cleanup.movesOf key).count .opened - (cleanup.movesOf key).count .closed

/-- A count that every move clips. -/
def clipped (moves : List Move) : Nat := moves.foldl clip 0

/-- Where a cleanup starts for a strike of the window, positions are left or the strike is
active and not pinned. -/
def Spared (env : Env) (cleanup : Cleanup) (key : Key) : Prop :=
  cleanup.openCounts key = 0 → cleanup.inWindow env key = true →
    key.2 ∈ cleanup.activeStrikes key.1 ∧ key.2 ∉ cleanup.pinnedStrikes key.1

/-- What a safe step needs: a strike that is spared where a cleanup starts, and one that is
still dead where the feeder returns. -/
def Guarded (env : Env) (cleanup : Cleanup) : Event → Prop
  | .fill fill => cleanup.busy .fillLoop = false → fill.side = .sell →
      ∀ key, fill.key = some key → Spared env (cleanup.register key .closed) key
  | .system event => cleanup.busy .sysLoop = false →
      ∀ key, event.key env = some key → Spared env (cleanup.register key .closed) key
  | .startTask index => ∀ key, cleanup.scheduled[index]? = some key → Spared env cleanup key
  | .feederReturns index _ => ∀ owner key, cleanup.waiting[index]? = some (owner, key) →
      cleanup.openCounts key = 0 ∧ cleanup.inWindow env key = false
  | _ => True

/-- A strike is opened only if it has not been closed more often than opened before. -/
def Matched (env : Env) (cleanup : Cleanup) (event : Event) : Prop :=
  ∀ key, moved env cleanup event = some (key, .opened) →
    (cleanup.movesOf key).count .closed ≤ (cleanup.movesOf key).count .opened

section Counts

variable (env : Env) {cleanup : Cleanup} {key other : Key} {move : Move} {owner : Owner}

/-- The state with the move of an event registered, and nothing else. -/
def registered (cleanup : Cleanup) (event : Event) : Cleanup :=
  match moved env cleanup event with
  | none => cleanup
  | some (key, move) => cleanup.register key move

@[simp] theorem begin_openCounts :
    (cleanup.begin env owner key).openCounts = cleanup.openCounts := by
  unfold Cleanup.begin
  split
  · rfl
  · split <;> rfl

@[simp] theorem begin_moves : (cleanup.begin env owner key).moves = cleanup.moves := by
  unfold Cleanup.begin
  split
  · rfl
  · split <;> rfl

@[simp] theorem finish_openCounts (index : Nat) (succeeded : Bool) :
    (cleanup.finish env index succeeded).openCounts = cleanup.openCounts := by
  unfold Cleanup.finish
  split <;> rfl

@[simp] theorem finish_moves (index : Nat) (succeeded : Bool) :
    (cleanup.finish env index succeeded).moves = cleanup.moves := by
  unfold Cleanup.finish
  split <;> rfl

/-- A step registers the move of its event, and no cleanup changes a count. -/
theorem step_registered (cleanup : Cleanup) (event : Event) :
    (step env cleanup event).openCounts = (registered env cleanup event).openCounts ∧
      (step env cleanup event).moves = (registered env cleanup event).moves := by
  unfold registered
  cases event with
  | fill fill =>
    cases waits : cleanup.busy .fillLoop with
    | true => simp [step, moved, waits]
    | false =>
      cases found : fill.key with
      | none => simp [step, moved, waits, found]
      | some key => cases side : fill.side <;> simp [step, moved, waits, found, side]
  | system event =>
    cases waits : cleanup.busy .sysLoop with
    | true => simp [step, moved, waits]
    | false => cases found : event.key env <;> simp [step, moved, waits, found]
  | notifyPositionOpened key => exact ⟨rfl, rfl⟩
  | notifyPositionClosed key looping => exact ⟨rfl, rfl⟩
  | startTask index =>
    cases found : cleanup.scheduled[index]? <;> simp [step, moved, found]
  | feederReturns index succeeded => simp [step, moved]
  | rebalance underlying next => exact ⟨rfl, rfl⟩

theorem movesOf_register :
    (cleanup.register key move).movesOf other =
      if key = other then cleanup.movesOf other ++ [move] else cleanup.movesOf other := by
  unfold Cleanup.movesOf Cleanup.register
  rw [List.filter_append, List.map_append]
  split
  · rename_i same
    simp [same]
  · rename_i apart
    simp [apart]

theorem openCounts_register :
    (cleanup.register key move).openCounts other =
      if key = other then clip (cleanup.openCounts other) move else cleanup.openCounts other := by
  unfold Cleanup.register
  by_cases same : key = other
  · subst same
    simp
  · rw [if_neg same]
    exact Function.update_of_ne (Ne.symm same) _ _

/-- Counts and moves of the state after a step. -/
theorem step_counts (cleanup : Cleanup) (event : Event) (key : Key) :
    (step env cleanup event).openCounts key = (registered env cleanup event).openCounts key ∧
      (step env cleanup event).movesOf key = (registered env cleanup event).movesOf key := by
  obtain ⟨counts, moves⟩ := step_registered env cleanup event
  unfold Cleanup.movesOf
  rw [counts, moves]
  exact ⟨rfl, rfl⟩

/-- A count is what the moves of its own strike make of it. -/
theorem openCounts_clipped (events : List Event) (key : Key) :
    (run (step env) (Cleanup.start env) events).openCounts key =
      clipped ((run (step env) (Cleanup.start env) events).movesOf key) := by
  have kept : ∀ (cleanup : Cleanup) (event : Event),
      cleanup.openCounts key = clipped (cleanup.movesOf key) →
      True → (step env cleanup event).openCounts key =
        clipped ((step env cleanup event).movesOf key) := by
    intro cleanup event clipping _
    obtain ⟨counts, moves⟩ := step_counts env cleanup event key
    rw [counts, moves]
    unfold registered
    split
    · exact clipping
    · rename_i named move _
      rw [openCounts_register, movesOf_register]
      split
      · rw [clipped, List.foldl_append, ← clipped, ← clipping]
        rfl
      · exact clipping
  exact along_invariant (step env) kept (Cleanup.start env) events rfl
    (along_always (step env) _ _ (fun _ _ _ => trivial))

/-- A close keeps the difference of the moves. An open does unless it follows more closes. -/
theorem counted_register (counted : Counted cleanup) :
    Counted (cleanup.register key move) ↔
      (move = .opened →
        (cleanup.movesOf key).count .closed ≤ (cleanup.movesOf key).count .opened) := by
  have elsewhere : ∀ other, key ≠ other →
      (cleanup.register key move).openCounts other =
        ((cleanup.register key move).movesOf other).count .opened -
          ((cleanup.register key move).movesOf other).count .closed := by
    intro other apart
    rw [openCounts_register, movesOf_register, if_neg apart, if_neg apart]
    exact counted other
  have here : (cleanup.register key move).openCounts key =
      ((cleanup.register key move).movesOf key).count .opened -
        ((cleanup.register key move).movesOf key).count .closed ↔
      (move = .opened →
        (cleanup.movesOf key).count .closed ≤ (cleanup.movesOf key).count .opened) := by
    rw [openCounts_register, movesOf_register, if_pos rfl, if_pos rfl, counted key,
      List.count_append, List.count_append]
    cases move with
    | opened =>
      have one : List.count Move.opened [.opened] = 1 := rfl
      have none : List.count Move.closed [.opened] = 0 := rfl
      rw [one, none, clip]
      simp only [true_imp_iff]
      omega
    | closed =>
      have one : List.count Move.closed [.closed] = 1 := rfl
      have none : List.count Move.opened [.closed] = 0 := rfl
      rw [one, none, clip]
      simp only [reduceCtorEq, false_imp_iff, iff_true]
      split <;> omega
  constructor
  · intro after
    exact here.mp (after key)
  · intro matched other
    by_cases same : key = other
    · subst same
      exact here.mpr matched
    · exact elsewhere other same

/-- One step keeps the counts exactly if it is matched. -/
theorem counted_step (cleanup : Cleanup) (event : Event) (counted : Counted cleanup) :
    Counted (step env cleanup event) ↔ Matched env cleanup event := by
  have same : Counted (step env cleanup event) ↔ Counted (registered env cleanup event) := by
    apply forall_congr'
    intro key
    obtain ⟨counts, moves⟩ := step_counts env cleanup event key
    rw [counts, moves]
  rw [same]
  unfold registered Matched
  cases moved env cleanup event with
  | none => simpa using counted
  | some entry =>
    obtain ⟨key, move⟩ := entry
    rw [counted_register counted]
    constructor
    · rintro matched other found
      obtain ⟨rfl, rfl⟩ := Prod.mk.inj (Option.some.inj found)
      exact matched rfl
    · rintro matched rfl
      exact matched key rfl

end Counts

section Safety

variable (env : Env) {cleanup : Cleanup} {key : Key} {owner : Owner}

theorem safe_congr {other : Cleanup} (same : cleanup.effects = other.effects) :
    Safe cleanup ↔ Safe other := by
  unfold Safe
  rw [same]

theorem safe_call (call : Call) :
    Safe (cleanup.call env call key) ↔
      Safe cleanup ∧ cleanup.openCounts key = 0 ∧ cleanup.inWindow env key = false := by
  unfold Safe Cleanup.call
  simp only [List.forall_mem_append, List.forall_mem_singleton]

/-- A cleanup unsubscribes safely exactly if it spares its strike. -/
theorem safe_begin :
    Safe (cleanup.begin env owner key) ↔ Safe cleanup ∧ Spared env cleanup key := by
  unfold Cleanup.begin Spared
  split
  · rename_i held
    simp [Nat.pos_iff_ne_zero.mp held]
  · rename_i free
    have zero : cleanup.openCounts key = 0 := Nat.eq_zero_of_not_pos free
    split
    · rename_i spared
      have skipped : Safe { cleanup with
          cleanupsSkippedInWindow := cleanup.cleanupsSkippedInWindow + 1 } ↔ Safe cleanup :=
        safe_congr rfl
      rw [skipped]
      exact (and_iff_left (fun _ _ => spared)).symm
    · rename_i dropped
      have called : Safe { cleanup.call env .unsubscribeTokens key with
          waiting := cleanup.waiting ++ [(owner, key)] } ↔
          Safe (cleanup.call env .unsubscribeTokens key) :=
        safe_congr rfl
      rw [called, safe_call]
      simp only [zero, true_and, dropped, imp_false, Bool.not_eq_true, forall_const]

theorem safe_finish (index : Nat) (succeeded : Bool) :
    Safe (cleanup.finish env index succeeded) ↔
      Safe cleanup ∧ ∀ owner key, cleanup.waiting[index]? = some (owner, key) →
        cleanup.openCounts key = 0 ∧ cleanup.inWindow env key = false := by
  cases found : cleanup.waiting[index]? with
  | none => simp [Cleanup.finish, found]
  | some waiter =>
    obtain ⟨owner, key⟩ := waiter
    have returned : Safe (cleanup.finish env index succeeded) ↔
        Safe (cleanup.call env .unpinStrike key) := by
      apply safe_congr
      simp only [Cleanup.finish, found]
      rfl
    rw [returned, safe_call]
    simp

/-- A step that calls nothing is safe. -/
theorem safe_quiet {event : Event} (safe : Safe cleanup)
    (quiet : (step env cleanup event).effects = cleanup.effects)
    (guarded : Guarded env cleanup event) :
    Safe (step env cleanup event) ↔ Guarded env cleanup event :=
  iff_of_true ((safe_congr quiet).mpr safe) guarded

/-- A close is safe exactly if the cleanup behind it spares the strike. -/
theorem safe_close (safe : Safe cleanup) :
    Safe ((cleanup.register key .closed).begin env owner key) ↔
      Spared env (cleanup.register key .closed) key := by
  have registering : Safe (cleanup.register key .closed) := safe
  rw [safe_begin]
  exact and_iff_right registering

theorem safe_fill (fill : OrderFill) (safe : Safe cleanup) :
    Safe (step env cleanup (.fill fill)) ↔ Guarded env cleanup (.fill fill) := by
  cases waits : cleanup.busy .fillLoop with
  | true =>
    apply safe_quiet env safe (by simp [step, waits])
    simp [Guarded, waits]
  | false =>
    cases found : fill.key with
    | none =>
      apply safe_quiet env safe (by simp [step, found])
      simp [Guarded, found]
    | some key =>
      cases side : fill.side with
      | buy =>
        apply safe_quiet env safe (by simp [step, waits, found, side, Cleanup.register])
        simp [Guarded, side]
      | sell =>
        have stepped : step env cleanup (.fill fill) =
            (cleanup.register key .closed).begin env .fillLoop key := by
          simp [step, waits, found, side]
        rw [stepped, safe_close env safe]
        simp [Guarded, waits, found, side]

theorem safe_system (event : SystemEvent) (safe : Safe cleanup) :
    Safe (step env cleanup (.system event)) ↔ Guarded env cleanup (.system event) := by
  cases waits : cleanup.busy .sysLoop with
  | true =>
    apply safe_quiet env safe (by simp [step, waits])
    simp [Guarded, waits]
  | false =>
    cases found : event.key env with
    | none =>
      apply safe_quiet env safe (by simp [step, found])
      simp [Guarded, found]
    | some key =>
      have stepped : step env cleanup (.system event) =
          (cleanup.register key .closed).begin env .sysLoop key := by
        simp [step, waits, found]
      rw [stepped, safe_close env safe]
      simp [Guarded, waits, found]

theorem safe_startTask (index : Nat) (safe : Safe cleanup) :
    Safe (step env cleanup (.startTask index)) ↔ Guarded env cleanup (.startTask index) := by
  cases found : cleanup.scheduled[index]? with
  | none =>
    apply safe_quiet env safe (by simp [step, found])
    simp [Guarded, found]
  | some key =>
    have stepped : step env cleanup (.startTask index) =
        { cleanup with scheduled := cleanup.scheduled.eraseIdx index }.begin env .task key := by
      simp [step, found]
    have starting : Safe { cleanup with scheduled := cleanup.scheduled.eraseIdx index } := safe
    rw [stepped, safe_begin, and_iff_right starting]
    simp only [Guarded, found, Option.some.injEq, forall_eq']
    rfl

/-- One step is safe exactly if it is guarded. -/
theorem safe_step (cleanup : Cleanup) (event : Event) (safe : Safe cleanup) :
    Safe (step env cleanup event) ↔ Guarded env cleanup event := by
  cases event with
  | fill fill => exact safe_fill env fill safe
  | system event => exact safe_system env event safe
  | notifyPositionOpened key => exact safe_quiet env safe rfl trivial
  | notifyPositionClosed key looping => exact safe_quiet env safe rfl trivial
  | startTask index => exact safe_startTask env index safe
  | feederReturns index succeeded =>
    have stepped : step env cleanup (.feederReturns index succeeded) =
        cleanup.finish env index succeeded := rfl
    rw [stepped, safe_finish]
    exact and_iff_right safe
  | rebalance underlying next => exact safe_quiet env safe rfl trivial

end Safety

/-- In every run a strike is unsubscribed and released only dead exactly if every step is
guarded, and every count is opens minus closes exactly if every open is matched. A count
always is what the clipped moves of its strike make of it. -/
theorem cleanup_iff (env : Env) (events : List Event) :
    (Along (step env) (fun cleanup event => Safe (step env cleanup event))
        (Cleanup.start env) events ↔
      Along (step env) (Guarded env) (Cleanup.start env) events) ∧
    (Along (step env) (fun cleanup event => Counted (step env cleanup event))
        (Cleanup.start env) events ↔
      Along (step env) (Matched env) (Cleanup.start env) events) ∧
    ∀ key, (run (step env) (Cleanup.start env) events).openCounts key =
      clipped ((run (step env) (Cleanup.start env) events).movesOf key) := by
  refine ⟨?_, ?_, openCounts_clipped env events⟩
  · apply along_exact (step env) (fun _ _ (_ : True) _ => trivial)
      (fun cleanup event _ safe => safe_step env cleanup event safe) (Cleanup.start env) events
      trivial
    intro effect member
    exact absurd member List.not_mem_nil
  · apply along_exact (step env) (fun _ _ (_ : True) _ => trivial)
      (fun cleanup event _ counted => counted_step env cleanup event counted)
      (Cleanup.start env) events trivial
    intro key
    rfl

def nifty : Env := ⟨["NIFTY"], fun _ => 50, 4, fun _ => none⟩

/-- The rebalancer after the open at 24500 and the pin of a fill. -/
def pinnedAtm : UnderlyingState :=
  (run (StrikeRebalancer.step ⟨true, 50, 4⟩) {}
    [.call .enableChain, .tick ⟨24510, StrikeRebalancer.marketOpen⟩ true [] [],
      .call (.pinStrike 24500)]).state

def bought : OrderFill := ⟨"NSE:NIFTY24JUN24500CE", .buy, .complete, none, none⟩

/-- A position at the money that is opened and closed. -/
def roundTrip : List Event :=
  [.rebalance "NIFTY" pinnedAtm, .fill bought, .fill { bought with side := .sell }]

/-- Its strike is pinned, so it is unsubscribed inside the window. -/
theorem pinned_strike_dropped :
    (run (step nifty) (Cleanup.start nifty) roundTrip).effects =
        [⟨.unsubscribeTokens, ("NIFTY", 24500), 0, true⟩] ∧
      ¬ Safe (run (step nifty) (Cleanup.start nifty) roundTrip) := by
  have dropped : (run (step nifty) (Cleanup.start nifty) roundTrip).effects =
      [⟨.unsubscribeTokens, ("NIFTY", 24500), 0, true⟩] := by
    decide +kernel
  refine ⟨dropped, fun safe => ?_⟩
  unfold Safe at safe
  rw [dropped, List.forall_mem_singleton] at safe
  exact absurd safe.2 (by decide)

end OptionChain.StrikeCleanup
