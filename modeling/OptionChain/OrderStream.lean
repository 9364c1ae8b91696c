import Mathlib.Algebra.BigOperators.Group.List.Basic
import OptionChain.StraddleBook

/-!
# The order stream and the book

A ledger follows a book together with every order it emitted and every order the
bridge aborted. Replaying the other orders says which legs should be outstanding
at the broker; the book says which legs it holds. They agree as long as an abort
answers the latest order and that order opened both legs, a session is reset only
when flat, and a position is opened only when there is none.

The invariant also keeps the event counters increasing, so an abort names one
order, and remembers that a latest two-leg ENTRY is the position held.
-/

namespace OptionChain.OrderStream

open Broker Runs StraddleEvents StraddleBook

structure Ledger where
  book : Book
  emitted : List StraddleOrderEvent
  aborted : List EventId
deriving DecidableEq

def Ledger.fresh : Ledger := ⟨Book.fresh, [], []⟩

/-- The orders among the effects of an operation. -/
def ordersOf (effects : List Effect) : List StraddleOrderEvent :=
  effects.filterMap fun
    | .order ev => some ev
    | .persist _ => none

/-- A fill by which the bridge aborts an order of this book. -/
def aborts (identity : Identity) (ev : StraddleFillEvent) : Bool :=
  decide (ev.underlying = identity.underlying) && decide (ev.clientId = identity.clientId) &&
    decide (ev.bindingId = identity.bindingId) && decide (ev.action = .entry) && ev.entryAborted

def abortedBy (identity : Identity) : Op → List EventId
  | .fill ev => if aborts identity ev then [ev.eventId] else []
  | _ => []

/-- One operation, its orders and the abort it reports. -/
def ledgerStep (identity : Identity) (ledger : Ledger) (event : BookEvent) : Ledger :=
  let operated := operate identity event.settings event.now ledger.book event.op
  { book := operated.1
    emitted := ledger.emitted ++ ordersOf operated.2
    aborted := abortedBy identity event.op ++ ledger.aborted }

/-- An ENTRY sells a leg and an EXIT buys it back. -/
def direction : Action → Int
  | .entry => 1
  | .exit => -1

/-- What an order does to the quantity of one leg at one strike. -/
def moved (optType : OptType) (strike : Rat) (ev : StraddleOrderEvent) : Int :=
  if optType ∈ ev.legs ∧ ev.strike optType = strike then direction ev.action else 0

/-- Replay the orders that were not aborted. -/
def outstanding (emitted : List StraddleOrderEvent) (aborted : List EventId)
    (optType : OptType) (strike : Rat) : Int :=
  ((emitted.filter (fun ev => decide (ev.eventId ∉ aborted))).map (moved optType strike)).sum

/-- The legs of the current open position. -/
def held (book : Book) (optType : OptType) (strike : Rat) : Int :=
  match book.position with
  | none => 0
  | some pos => if pos.status = .open ∧ (pos.leg optType).strike = strike then 1 else 0

/-- Exactly the legs of the open position are outstanding. -/
def Agreement (ledger : Ledger) : Prop :=
  ∀ optType strike,
    outstanding ledger.emitted ledger.aborted optType strike = held ledger.book optType strike

/-- An abort of the latest order, which opened both legs. -/
def answersLatest (emitted : List StraddleOrderEvent) (ev : StraddleFillEvent) : Bool :=
  match emitted.getLast? with
  | none => false
  | some latest =>
      decide (latest.eventId = ev.eventId) && decide (latest.action = .entry) &&
        decide (latest.legs = [.ce, .pe])

/-- The condition of one step, on the ledger before it. A fill that the handler
treats as an abort must be an abort of this book's latest order. -/
def orderly (identity : Identity) (ledger : Ledger) (event : BookEvent) : Bool :=
  match event.op with
  | .openPosition .. => ledger.book.position.isNone
  | .resetSession => ledger.book.position.isNone
  | .fill ev =>
      if ev.underlying = identity.underlying ∧ ev.action = .entry ∧ ev.entryAborted = true then
        aborts identity ev && answersLatest ledger.emitted ev
      else true
  | _ => true

/-- When the latest order opened both legs, it was aborted and the book is flat,
or it stands and is the position held. -/
def LatestHeld (ledger : Ledger) : Prop :=
  ∀ latest, ledger.emitted.getLast? = some latest → latest.action = .entry →
    latest.legs = [.ce, .pe] →
    (latest.eventId ∈ ledger.aborted ∧ ledger.book.position = none) ∨
      (latest.eventId ∉ ledger.aborted ∧ ∃ pos, ledger.book.position = some pos ∧
        ∀ optType, (pos.leg optType).strike = latest.strike optType)

structure LedgerInvariant (ledger : Ledger) : Prop where
  opened : ∀ pos, ledger.book.position = some pos → pos.status = .open
  agreement : Agreement ledger
  increasing : ledger.emitted.Pairwise (fun a b => a.eventId.counter < b.eventId.counter)
  counted : ∀ ev ∈ ledger.emitted, ev.eventId.counter ≤ ledger.book.eventCounter
  abortedCounted : ∀ id ∈ ledger.aborted, id.counter ≤ ledger.book.eventCounter
  latest : LatestHeld ledger

section Replay

variable {emitted further : List StraddleOrderEvent} {aborted : List EventId}

/-- Orders that are not aborted add what they move. -/
theorem outstanding_append (standing : ∀ ev ∈ further, ev.eventId ∉ aborted)
    (optType : OptType) (strike : Rat) :
    outstanding (emitted ++ further) aborted optType strike =
      outstanding emitted aborted optType strike + (further.map (moved optType strike)).sum := by
  have kept : further.filter (fun ev => decide (ev.eventId ∉ aborted)) = further := by
    rw [List.filter_eq_self]
    intro ev found
    exact decide_eq_true (standing ev found)
  rw [outstanding, List.filter_append, kept, List.map_append, List.sum_append, outstanding]

/-- Aborting the last order takes back what it moved, once. -/
theorem outstanding_abort {latest : StraddleOrderEvent}
    (apart : ∀ ev ∈ emitted, ev.eventId ≠ latest.eventId) (optType : OptType) (strike : Rat) :
    outstanding (emitted ++ [latest]) (latest.eventId :: aborted) optType strike =
      outstanding emitted aborted optType strike := by
  have same : emitted.filter (fun ev => decide (ev.eventId ∉ latest.eventId :: aborted)) =
      emitted.filter (fun ev => decide (ev.eventId ∉ aborted)) := by
    apply List.filter_congr
    intro ev found
    simp [apart ev found]
  rw [outstanding, List.filter_append, same]
  simp [outstanding]

/-- An order aborted already moves nothing. -/
theorem outstanding_aborted {latest : StraddleOrderEvent} (gone : latest.eventId ∈ aborted)
    (optType : OptType) (strike : Rat) :
    outstanding (emitted ++ [latest]) aborted optType strike =
      outstanding emitted aborted optType strike := by
  simp [outstanding, List.filter_append, gone]

end Replay

/-- An operation that emits orders under new counters. The replay must grow as
the held legs do, and the latest order must be the position held. -/
theorem invariant_emit {ledger : Ledger} (invariant : LedgerInvariant ledger) {book : Book}
    {orders : List StraddleOrderEvent}
    (opened : ∀ pos, book.position = some pos → pos.status = .open)
    (moves : ∀ optType strike, held book optType strike =
      held ledger.book optType strike + (orders.map (moved optType strike)).sum)
    (ascending : orders.Pairwise (fun a b => a.eventId.counter < b.eventId.counter))
    (later : ∀ ev ∈ orders, ledger.book.eventCounter < ev.eventId.counter)
    (counted : ∀ ev ∈ orders, ev.eventId.counter ≤ book.eventCounter)
    (forward : ledger.book.eventCounter ≤ book.eventCounter)
    (latest : LatestHeld ⟨book, ledger.emitted ++ orders, ledger.aborted⟩) :
    LedgerInvariant ⟨book, ledger.emitted ++ orders, ledger.aborted⟩ := by
  have standing : ∀ ev ∈ orders, ev.eventId ∉ ledger.aborted := by
    intro ev found gone
    have early := invariant.abortedCounted _ gone
    have late := later ev found
    omega
  constructor
  · exact opened
  · intro optType strike
    simp only []
    rw [outstanding_append standing, invariant.agreement, moves]
  · rw [List.pairwise_append]
    refine ⟨invariant.increasing, ascending, ?_⟩
    intro early first late second
    have before := invariant.counted early first
    have after := later late second
    omega
  · intro ev found
    rcases List.mem_append.mp found with old | new
    · exact Nat.le_trans (invariant.counted ev old) forward
    · exact counted ev new
  · intro id found
    exact Nat.le_trans (invariant.abortedCounted id found) forward
  · exact latest

/-- An operation without orders that keeps the position's strikes. -/
theorem invariant_quiet {ledger : Ledger} (invariant : LedgerInvariant ledger) {book : Book}
    (counter : book.eventCounter = ledger.book.eventCounter)
    (flat : ledger.book.position = none → book.position = none)
    (kept : ∀ pos, ledger.book.position = some pos → ∃ after, book.position = some after ∧
      after.status = pos.status ∧
      ∀ optType, (after.leg optType).strike = (pos.leg optType).strike) :
    LedgerInvariant ⟨book, ledger.emitted, ledger.aborted⟩ := by
  have same : ∀ optType strike, held book optType strike = held ledger.book optType strike := by
    intro optType strike
    unfold held
    cases position : ledger.book.position with
    | none => rw [flat position]
    | some pos =>
      obtain ⟨after, holds, status, strikes⟩ := kept pos position
      simp only [holds, status, strikes]
  constructor
  · intro after holds
    cases position : ledger.book.position with
    | none =>
      rw [flat position] at holds
      cases holds
    | some pos =>
      obtain ⟨found, foundHolds, status, _⟩ := kept pos position
      have equal : found = after := Option.some.inj (foundHolds.symm.trans holds)
      rw [← equal, status]
      exact invariant.opened pos position
  · intro optType strike
    simp only []
    rw [invariant.agreement, same]
  · exact invariant.increasing
  · intro ev found
    simp only [counter]
    exact invariant.counted ev found
  · intro id found
    simp only [counter]
    exact invariant.abortedCounted id found
  · intro latest last entry both
    rcases invariant.latest latest last entry both with ⟨gone, empty⟩ | ⟨standing, pos, position,
      strikes⟩
    · exact .inl ⟨gone, flat empty⟩
    · obtain ⟨after, holds, _, keptStrikes⟩ := kept pos position
      exact .inr ⟨standing, after, holds, fun optType =>
        (keptStrikes optType).trans (strikes optType)⟩

/-- The held legs of a flat book, and of a book with an open position. -/
theorem held_none {book : Book} (flat : book.position = none) (optType : OptType) (strike : Rat) :
    held book optType strike = 0 := by
  simp [held, flat]

theorem held_some {book : Book} {pos : StraddlePosition} (position : book.position = some pos)
    (opened : pos.status = .open) (optType : OptType) (strike : Rat) :
    held book optType strike = if (pos.leg optType).strike = strike then 1 else 0 := by
  simp [held, position, opened]

/-- An abort of the latest two-leg ENTRY returns the replay to the flat state it
had before that order. -/
theorem invariant_abort {ledger : Ledger} (invariant : LedgerInvariant ledger) {book : Book}
    {latest : StraddleOrderEvent} (last : ledger.emitted.getLast? = some latest)
    (entry : latest.action = .entry) (both : latest.legs = [.ce, .pe])
    (flat : book.position = none) (counter : book.eventCounter = ledger.book.eventCounter) :
    LedgerInvariant ⟨book, ledger.emitted, latest.eventId :: ledger.aborted⟩ := by
  obtain ⟨emitted, split⟩ := List.getLast?_eq_some_iff.mp last
  have increasing := invariant.increasing
  rw [split, List.pairwise_append] at increasing
  have apart : ∀ ev ∈ emitted, ev.eventId ≠ latest.eventId := by
    intro ev found same
    have before := increasing.2.2 ev found latest (by simp)
    rw [same] at before
    omega
  have before : ∀ optType strike, outstanding emitted ledger.aborted optType strike = 0 := by
    intro optType strike
    have agreement := invariant.agreement optType strike
    rw [split] at agreement
    rcases invariant.latest latest last entry both with ⟨gone, empty⟩ | ⟨standing, pos, position,
      strikes⟩
    · rw [outstanding_aborted gone, held_none empty] at agreement
      exact agreement
    · have opened := invariant.opened pos position
      rw [outstanding_append (by simpa using standing), held_some position opened, strikes]
        at agreement
      have sold : ([latest].map (moved optType strike)).sum =
          if latest.strike optType = strike then 1 else 0 := by
        have listed : optType ∈ latest.legs := by
          rw [both]
          cases optType <;> decide
        simp [moved, listed, entry, direction]
      omega
  constructor
  · intro pos position
    rw [flat] at position
    cases position
  · intro optType strike
    simp only []
    rw [split, outstanding_abort apart, before, held_none flat]
  · exact invariant.increasing
  · intro ev found
    simp only [counter]
    exact invariant.counted ev found
  · intro id found
    simp only [counter]
    rcases List.mem_cons.mp found with rfl | old
    · exact invariant.counted latest (by simp [split])
    · exact invariant.abortedCounted id old
  · intro other final _ _
    have same : other = latest := Option.some.inj (final.symm.trans last)
    exact .inl ⟨by simp [same], flat⟩

/-- An order for some legs of a position. -/
structure Describes (ev : StraddleOrderEvent) (pos : StraddlePosition) (action : Action)
    (legs : List OptType) (counter : Nat) : Prop where
  action : ev.action = action
  legs : ev.legs = legs
  strikes : ∀ optType, ev.strike optType = (pos.leg optType).strike
  counter : ev.eventId.counter = counter

/-- Two orders with the next two counters. -/
theorem consecutive_counters {first second : StraddleOrderEvent} {counter : Nat}
    (one : first.eventId.counter = counter + 1) (two : second.eventId.counter = counter + 1 + 1) :
    [first, second].Pairwise (fun a b => a.eventId.counter < b.eventId.counter) ∧
      ∀ ev ∈ [first, second], counter < ev.eventId.counter ∧
        ev.eventId.counter ≤ counter + 1 + 1 := by
  constructor
  · rw [List.pairwise_pair]
    omega
  · intro ev sent
    obtain rfl | rfl : ev = first ∨ ev = second := by simpa using sent
    · omega
    · omega

/-- What a described order moves. -/
theorem moved_described {ev : StraddleOrderEvent} {pos : StraddlePosition} {action : Action}
    {legs : List OptType} {counter : Nat} (described : Describes ev pos action legs counter)
    (optType : OptType) (strike : Rat) :
    moved optType strike ev =
      if optType ∈ legs ∧ (pos.leg optType).strike = strike then direction action else 0 := by
  rw [moved, described.legs, described.strikes, described.action]

theorem mem_both (optType : OptType) : optType ∈ [OptType.ce, OptType.pe] := by
  cases optType <;> decide

@[simp] theorem ordersOf_append (early late : List Effect) :
    ordersOf (early ++ late) = ordersOf early ++ ordersOf late :=
  List.filterMap_append

@[simp] theorem ordersOf_persist (book : Book) : ordersOf [persist book] = [] := rfl

section Specs

variable (identity : Identity) (settings : Settings) (now : Int) (book : Book)

/-- Opening emits one ENTRY for both legs of the position it builds. -/
theorem openPosition_spec (ceStrike peStrike : Int) (ceLtp peLtp : Rat) (ruleKey : String) :
    ∃ ev pos,
      let opened := openPosition identity settings book ceStrike peStrike ceLtp peLtp ruleKey
      ordersOf opened.2 = [ev] ∧ opened.1.position = some pos ∧ pos.status = .open ∧
        opened.1.eventCounter = book.eventCounter + 1 ∧
        Describes ev pos .entry [.ce, .pe] (book.eventCounter + 1) := by
  refine ⟨_, _, rfl, rfl, rfl, rfl, rfl, rfl, ?_, rfl⟩
  intro optType
  cases optType <;> rfl

/-- Closing emits one EXIT for both legs and leaves the book flat. -/
theorem closePosition_spec {pos : StraddlePosition} (position : book.position = some pos)
    (reason : String) :
    ∃ ev, let closed := closePosition identity settings now book reason
      ordersOf closed.2 = [ev] ∧ closed.1.position = none ∧
        closed.1.eventCounter = book.eventCounter + 1 ∧
        Describes ev pos .exit [.ce, .pe] (book.eventCounter + 1) := by
  unfold closePosition
  rw [position]
  refine ⟨_, rfl, applySlCooldown_position .., applySlCooldown_eventCounter .., rfl, rfl, ?_, rfl⟩
  intro optType
  cases optType <;> rfl

/-- Closing a leg emits one EXIT for it. -/
theorem closeLeg_spec (pos : StraddlePosition) (side : OptType) (reason : String) :
    ∃ ev, let closed := closeLeg identity settings book pos side reason
      ordersOf closed.2 = [ev] ∧ closed.1.eventCounter = book.eventCounter + 1 ∧
        Describes ev pos .exit [side] (book.eventCounter + 1) := by
  refine ⟨_, rfl, rfl, rfl, rfl, ?_, rfl⟩
  intro optType
  cases optType <;> rfl

/-- Opening a leg emits one ENTRY for it, at the strikes of the new pair. -/
theorem openLeg_spec (pos : StraddlePosition) (side : OptType) (strike : Int) (ltp : Rat)
    (reason : String) :
    ∃ ev, let opened := openLeg identity settings book pos side strike ltp reason
      ordersOf opened.2 = [ev] ∧
        opened.1.position = some (replacedLeg pos side strike ltp reason) ∧
        opened.1.eventCounter = book.eventCounter + 1 ∧
        Describes ev (replacedLeg pos side strike ltp reason) .entry [side]
          (book.eventCounter + 1) := by
  refine ⟨_, rfl, rfl, rfl, rfl, rfl, ?_, rfl⟩
  intro optType
  cases optType <;> rfl

/-- The trackers of a roll leave the legs and the counter alone. -/
theorem rebaseline_spec {pos : StraddlePosition} (position : book.position = some pos) :
    ∃ after, (rebaseline book).position = some after ∧ after.status = pos.status ∧
      (∀ optType, after.leg optType = pos.leg optType) ∧
      (rebaseline book).eventCounter = book.eventCounter := by
  unfold rebaseline
  rw [position]
  refine ⟨_, rfl, rfl, ?_, rfl⟩
  intro optType
  cases optType <;> rfl

/-- The strikes after one leg was replaced. -/
theorem replacedLeg_strike (pos : StraddlePosition) (side : OptType) (strike : Int) (ltp : Rat)
    (reason : String) (optType : OptType) :
    ((replacedLeg pos side strike ltp reason).leg optType).strike =
      if optType = side then (strike : Rat) else (pos.leg optType).strike := by
  cases side <;> cases optType <;> rfl

theorem replacedLeg_status (pos : StraddlePosition) (side : OptType) (strike : Int) (ltp : Rat)
    (reason : String) : (replacedLeg pos side strike ltp reason).status = pos.status := by
  cases side <;> rfl

end Specs

/-- The latest of some new orders decides what the latest order says. -/
theorem latestHeld_append {book : Book} {emitted orders : List StraddleOrderEvent}
    {aborted : List EventId} (latest : StraddleOrderEvent) (last : orders.getLast? = some latest)
    (holds : latest.action = .entry → latest.legs = [.ce, .pe] → latest.eventId ∉ aborted ∧
      ∃ pos, book.position = some pos ∧
        ∀ optType, (pos.leg optType).strike = latest.strike optType) :
    LatestHeld ⟨book, emitted ++ orders, aborted⟩ := by
  intro final isLast entry both
  simp only [List.getLast?_append, last, Option.some_or] at isLast
  cases isLast
  exact .inr (holds entry both)

section Steps

variable {identity : Identity} {settings : Settings} {now : Int} {ledger : Ledger}

theorem step_open (invariant : LedgerInvariant ledger) (flat : ledger.book.position = none)
    (ceStrike peStrike : Int) (ceLtp peLtp : Rat) (ruleKey : String) :
    LedgerInvariant (ledgerStep identity ledger
      ⟨settings, now, .openPosition ceStrike peStrike ceLtp peLtp ruleKey⟩) := by
  obtain ⟨ev, pos, orders, position, opened, counter, described⟩ :=
    openPosition_spec identity settings ledger.book ceStrike peStrike ceLtp peLtp ruleKey
  simp only [ledgerStep, operate, abortedBy, List.nil_append, orders]
  apply invariant_emit invariant
  case opened =>
    intro found holds
    rw [position] at holds
    cases holds
    exact opened
  case moves =>
    intro optType strike
    rw [held_none flat, held_some position opened, List.map_singleton, List.sum_singleton,
      moved_described described]
    simp only [mem_both, true_and, direction, Int.zero_add]
  case ascending => simp
  case later => simp [described.counter]
  case counted => simp [described.counter, counter]
  case forward => simp [counter]
  case latest =>
    apply latestHeld_append ev rfl
    intro _ _
    refine ⟨?_, pos, position, fun optType => (described.strikes optType).symm⟩
    intro gone
    have early := invariant.abortedCounted _ gone
    rw [described.counter] at early
    omega

theorem step_close (invariant : LedgerInvariant ledger) (reason : String) :
    LedgerInvariant (ledgerStep identity ledger ⟨settings, now, .closePosition reason⟩) := by
  cases position : ledger.book.position with
  | none =>
    simp only [ledgerStep, operate, closePosition, position, abortedBy, ordersOf,
      List.filterMap_nil, List.append_nil, List.nil_append]
    exact invariant
  | some pos =>
    have opened := invariant.opened pos position
    obtain ⟨ev, orders, flat, counter, described⟩ :=
      closePosition_spec identity settings now ledger.book position reason
    simp only [ledgerStep, operate, abortedBy, List.nil_append, orders]
    apply invariant_emit invariant
    case opened => simp [flat]
    case moves =>
      intro optType strike
      rw [held_none flat, held_some position opened, List.map_singleton, List.sum_singleton,
        moved_described described]
      simp only [mem_both, true_and, direction]
      split <;> rfl
    case ascending => simp
    case later => simp [described.counter]
    case counted => simp [described.counter, counter]
    case forward => simp [counter]
    case latest =>
      apply latestHeld_append ev rfl
      intro entry
      rw [described.action] at entry
      cases entry

/-- A roll without a partner closes both legs, one order each. -/
theorem step_roll_flat (invariant : LedgerInvariant ledger) {pos : StraddlePosition}
    (position : ledger.book.position = some pos) (side : OptType) (reason : String) :
    LedgerInvariant (ledgerStep identity ledger
      ⟨settings, now, .singleSideRoll side reason none⟩) := by
  have opened := invariant.opened pos position
  obtain ⟨first, firstOrders, firstCounter, firstDescribed⟩ :=
    closeLeg_spec identity settings ledger.book pos side reason
  obtain ⟨second, secondOrders, secondCounter, secondDescribed⟩ :=
    closeLeg_spec identity settings (closeLeg identity settings ledger.book pos side reason).1 pos
      side.other ("single_side_cleanup_" ++ reason)
  rw [firstCounter] at secondCounter secondDescribed
  obtain ⟨ascending, counters⟩ :=
    consecutive_counters firstDescribed.counter secondDescribed.counter
  simp only [ledgerStep, operate, singleSideRoll, position, abortedBy, List.nil_append,
    ordersOf_append, ordersOf_persist, firstOrders, secondOrders, List.append_nil]
  apply invariant_emit invariant
  case opened => simp
  case moves =>
    intro optType strike
    rw [held_none (applySlCooldown_position ..), held_some position opened]
    simp only [List.singleton_append, List.map_cons, List.map_nil, List.sum_cons, List.sum_nil,
      moved_described firstDescribed, moved_described secondDescribed, List.mem_singleton]
    cases side <;> cases optType <;> simp [OptType.other, direction] <;> split <;> rfl
  case ascending => exact ascending
  case later => exact fun ev sent => (counters ev sent).1
  case counted =>
    intro ev sent
    simpa [secondCounter] using (counters ev sent).2
  case forward =>
    simp [secondCounter]
    omega
  case latest =>
    apply latestHeld_append second rfl
    intro entry
    rw [secondDescribed.action] at entry
    cases entry

/-- A roll to another strike closes the leg and sells it again there. -/
theorem step_roll_moved (invariant : LedgerInvariant ledger) {pos : StraddlePosition}
    (position : ledger.book.position = some pos) (side : OptType) (reason : String)
    {strike : Int} (ltp : Rat) (other : strike ≠ truncate (pos.leg side).strike) :
    LedgerInvariant (ledgerStep identity ledger
      ⟨settings, now, .singleSideRoll side reason (some (strike, ltp))⟩) := by
  have opened := invariant.opened pos position
  obtain ⟨first, firstOrders, firstCounter, firstDescribed⟩ :=
    closeLeg_spec identity settings ledger.book pos side reason
  obtain ⟨second, secondOrders, moved, secondCounter, secondDescribed⟩ :=
    openLeg_spec identity settings (closeLeg identity settings ledger.book pos side reason).1 pos
      side strike ltp ("single_side_roll_" ++ reason)
  obtain ⟨after, based, status, legs, basedCounter⟩ := rebaseline_spec _ moved
  rw [firstCounter] at secondCounter secondDescribed
  rw [secondCounter] at basedCounter
  obtain ⟨ascending, counters⟩ :=
    consecutive_counters firstDescribed.counter secondDescribed.counter
  have stillOpen : after.status = .open := by
    rw [status, replacedLeg_status, opened]
  simp only [ledgerStep, operate, singleSideRoll, position, if_neg other, abortedBy,
    List.nil_append, ordersOf_append, ordersOf_persist, firstOrders, secondOrders, List.append_nil]
  apply invariant_emit invariant
  case opened =>
    intro found holds
    rw [based] at holds
    cases holds
    exact stillOpen
  case moves =>
    intro optType at_
    rw [held_some based stillOpen, held_some position opened, legs, replacedLeg_strike]
    simp only [List.singleton_append, List.map_cons, List.map_nil, List.sum_cons, List.sum_nil,
      moved_described firstDescribed, moved_described secondDescribed, List.mem_singleton,
      replacedLeg_strike, direction]
    by_cases rolled : optType = side
    · simp only [rolled, true_and, if_true]
      split <;> split <;> rfl
    · simp [rolled]
  case ascending => exact ascending
  case later => exact fun ev sent => (counters ev sent).1
  case counted =>
    intro ev sent
    simpa [basedCounter] using (counters ev sent).2
  case forward =>
    simp [basedCounter]
    omega
  case latest =>
    apply latestHeld_append second rfl
    intro _ both
    rw [secondDescribed.legs] at both
    cases both

/-- A roll to the same strike and operations on a flat book send nothing. -/
theorem step_roll (invariant : LedgerInvariant ledger) (side : OptType) (reason : String)
    (sel : Option (Int × Rat)) :
    LedgerInvariant (ledgerStep identity ledger
      ⟨settings, now, .singleSideRoll side reason sel⟩) := by
  cases position : ledger.book.position with
  | none =>
    simp only [ledgerStep, operate, singleSideRoll, position, abortedBy, ordersOf,
      List.filterMap_nil, List.append_nil, List.nil_append]
    exact invariant
  | some pos =>
    cases sel with
    | none => exact step_roll_flat invariant position side reason
    | some partner =>
      obtain ⟨strike, ltp⟩ := partner
      by_cases same : strike = truncate (pos.leg side).strike
      · simp only [ledgerStep, operate, singleSideRoll, position, if_pos same, abortedBy, ordersOf,
          List.filterMap_nil, List.append_nil, List.nil_append]
        exact invariant
      · exact step_roll_moved invariant position side reason ltp same

/-- Fills emit no orders. -/
theorem onFill_orders (settings : Settings) (now : Int) (book : Book) (fill : StraddleFillEvent) :
    ordersOf (onFill settings now book fill).2 = [] := by
  unfold onFill
  split
  · split
    · rfl
    · split
      · split <;> rfl
      · rfl
  · rfl

/-- An operation without orders that touches neither the position nor the counter. -/
theorem step_untouched (invariant : LedgerInvariant ledger) {book : Book}
    (position : book.position = ledger.book.position)
    (counter : book.eventCounter = ledger.book.eventCounter) :
    LedgerInvariant ⟨book, ledger.emitted, ledger.aborted⟩ := by
  refine invariant_quiet invariant counter ?_ ?_
  · intro flat
    rw [position, flat]
  · intro pos holds
    exact ⟨pos, position.trans holds, rfl, fun _ => rfl⟩

/-- An operation without orders that changes the position within its strikes. -/
theorem step_moved (invariant : LedgerInvariant ledger) {book : Book} {pos moved : StraddlePosition}
    (position : ledger.book.position = some pos) (after : book.position = some moved)
    (counter : book.eventCounter = ledger.book.eventCounter) (status : moved.status = pos.status)
    (strikes : ∀ optType, (moved.leg optType).strike = (pos.leg optType).strike) :
    LedgerInvariant ⟨book, ledger.emitted, ledger.aborted⟩ := by
  refine invariant_quiet invariant counter ?_ ?_
  · intro flat
    rw [position] at flat
    cases flat
  · intro found holds
    have same : pos = found := Option.some.inj (position.symm.trans holds)
    subst same
    exact ⟨moved, after, status, strikes⟩

/-- A confirmation keeps the strikes of the position it meets. -/
theorem confirm_quiet (invariant : LedgerInvariant ledger) {ev : StraddleFillEvent}
    (kept : ¬ (ev.action = .entry ∧ ev.entryAborted = true)) :
    LedgerInvariant ⟨(onFill settings now ledger.book ev).1, ledger.emitted, ledger.aborted⟩ := by
  cases action : ev.action with
  | exit =>
    rw [onFill_exit settings now ledger.book action]
    exact step_untouched invariant rfl rfl
  | entry =>
    have standing : ev.entryAborted = false := by
      cases aborted : ev.entryAborted with
      | false => rfl
      | true => exact (kept ⟨action, aborted⟩).elim
    cases position : ledger.book.position with
    | none =>
      rw [onFill_idle settings now ledger.book action standing position]
      exact step_untouched invariant rfl rfl
    | some pos =>
      have opened := invariant.opened pos position
      rw [onFill_confirm settings now ledger.book action standing position opened]
      refine step_moved invariant position rfl rfl rfl ?_
      intro optType
      cases optType
      · simp only [adoptFill, StraddlePosition.leg, adoptLeg]
        split <;> rfl
      · simp only [adoptFill, StraddlePosition.leg, adoptLeg]
        split <;> rfl

/-- What an orderly abort says about the latest order. -/
theorem answersLatest_spec {emitted : List StraddleOrderEvent} {ev : StraddleFillEvent}
    (answers : answersLatest emitted ev = true) :
    ∃ latest, emitted.getLast? = some latest ∧ latest.eventId = ev.eventId ∧
      latest.action = .entry ∧ latest.legs = [.ce, .pe] := by
  unfold answersLatest at answers
  cases last : emitted.getLast? with
  | none => simp [last] at answers
  | some latest =>
    simp only [last, Bool.and_eq_true, decide_eq_true_eq] at answers
    obtain ⟨⟨same, entry⟩, both⟩ := answers
    exact ⟨latest, rfl, same, entry, both⟩

theorem step_fill (invariant : LedgerInvariant ledger) (ev : StraddleFillEvent)
    (met : orderly identity ledger ⟨settings, now, .fill ev⟩ = true) :
    LedgerInvariant (ledgerStep identity ledger ⟨settings, now, .fill ev⟩) := by
  by_cases here : ev.underlying = identity.underlying
  · have handled : fillLoop identity settings now ledger.book ev =
        onFill settings now ledger.book ev := by
      simp [fillLoop, here]
    simp only [ledgerStep, operate, handled, onFill_orders, List.append_nil]
    by_cases abort : ev.action = .entry ∧ ev.entryAborted = true
    · simp only [orderly, here, abort, and_self, if_true, Bool.and_eq_true] at met
      obtain ⟨mine, answers⟩ := met
      obtain ⟨latest, last, same, entry, both⟩ := answersLatest_spec answers
      simp only [abortedBy, mine, if_true, List.singleton_append, ← same]
      rw [onFill_abort settings now ledger.book abort.1 abort.2]
      apply invariant_abort invariant last entry both
      · rw [applySlCooldown_position]
      · rw [applySlCooldown_eventCounter]
    · have notMine : aborts identity ev = false := by
        rw [Bool.eq_false_iff]
        intro mine
        simp only [aborts, Bool.and_eq_true, decide_eq_true_eq] at mine
        exact abort ⟨mine.1.2, mine.2⟩
      simp only [abortedBy, notMine, Bool.false_eq_true, if_false, List.nil_append]
      exact confirm_quiet invariant abort
  · have notMine : aborts identity ev = false := by
      simp [aborts, here]
    simp only [ledgerStep, operate, fillLoop, abortedBy, notMine, ordersOf, if_pos here,
      Bool.false_eq_true, if_false, List.filterMap_nil, List.append_nil, List.nil_append]
    exact invariant

theorem step_optionTick (invariant : LedgerInvariant ledger) (optType : OptType)
    (strike ltp : Rat) :
    LedgerInvariant (ledgerStep identity ledger
      ⟨settings, now, .optionTick optType strike ltp⟩) := by
  simp only [ledgerStep, operate, abortedBy, ordersOf, List.filterMap_nil, List.append_nil,
    List.nil_append]
  cases position : ledger.book.position with
  | none =>
    simp only [optionTick, position]
    exact invariant
  | some pos =>
    by_cases near : pos.status = .open ∧ |strike - (pos.leg optType).strike| < 1 / 100
    · simp only [optionTick, position, if_pos near]
      refine step_moved invariant position rfl rfl (setLeg_status ..) ?_
      intro other
      cases optType <;> cases other <;> rfl
    · simp only [optionTick, position, if_neg near]
      exact invariant

/-- Every orderly step keeps the invariant. -/
theorem ledgerStep_invariant (ledger : Ledger) (event : BookEvent)
    (invariant : LedgerInvariant ledger) (met : orderly identity ledger event = true) :
    LedgerInvariant (ledgerStep identity ledger event) := by
  obtain ⟨settings, now, op⟩ := event
  cases op with
  | openPosition ceStrike peStrike ceLtp peLtp ruleKey =>
    exact step_open invariant (Option.isNone_iff_eq_none.mp met) ceStrike peStrike ceLtp peLtp
      ruleKey
  | closePosition reason => exact step_close invariant reason
  | singleSideRoll side reason sel => exact step_roll invariant side reason sel
  | fill ev => exact step_fill invariant ev met
  | resetSession =>
    have flat : ledger.book.position = none := Option.isNone_iff_eq_none.mp met
    simp only [ledgerStep, operate, abortedBy, ordersOf, List.filterMap_nil, List.append_nil,
      List.nil_append]
    exact step_untouched invariant flat.symm rfl
  | optionTick optType strike ltp => exact step_optionTick invariant optType strike ltp
  | indexTick ltp =>
    simp only [ledgerStep, operate, abortedBy, ordersOf, List.filterMap_nil, List.append_nil,
      List.nil_append]
    exact step_untouched invariant rfl rfl

end Steps

theorem fresh_invariant : LedgerInvariant Ledger.fresh := by
  constructor
  · intro pos position
    cases position
  · intro optType strike
    rfl
  · exact List.Pairwise.nil
  · intro ev found
    cases found
  · intro id found
    cases found
  · intro latest last
    cases last

/-- In every run whose steps are orderly the replayed orders leave exactly the
legs of the open position outstanding. -/
theorem order_stream_agrees (identity : Identity) (events : List BookEvent)
    (met : Along (ledgerStep identity)
      (fun ledger event => orderly identity ledger event = true) Ledger.fresh events) :
    Agreement (run (ledgerStep identity) Ledger.fresh events) :=
  (along_invariant (ledgerStep identity) ledgerStep_invariant Ledger.fresh events fresh_invariant
    met).agreement

/-- Settings and identity of the runs below. -/
def plain : Settings := ⟨50, 65, 1, 5⟩

def owner : Identity := ⟨"NIFTY", "c1", "b1"⟩

/-- The abort of an order of the owner. -/
def abortOf (kind : EventKind) (counter : Nat) (legs : List OptType) : StraddleFillEvent where
  action := .entry
  underlying := "NIFTY"
  atm := 24600
  ceStrike := 24600
  peStrike := 24600
  ceFill := 0
  peFill := 0
  clientId := "c1"
  bindingId := "b1"
  eventId := ⟨"NIFTY", kind, counter⟩
  paperMode := false
  legs := legs
  entryAborted := true

/-- An aborted ENTRY, a second one, a roll and a close are orderly and end flat. -/
theorem order_stream_agrees_after_an_abort :
    Agreement (run (ledgerStep owner) Ledger.fresh
      [⟨plain, 0, .openPosition 24600 24600 100 90 "entry_rules_beginning"⟩,
        ⟨plain, 1, .fill (abortOf .entry 1 [.ce, .pe])⟩,
        ⟨plain, 400, .openPosition 24600 24500 100 90 "entry_rules_reentry"⟩,
        ⟨plain, 500, .singleSideRoll .ce "ratio_exit" (some (24650, 80))⟩,
        ⟨plain, 600, .closePosition "exit_rules"⟩]) :=
  order_stream_agrees owner _ (by decide)

/-- The abort of a single-leg roll ENTRY discards the whole position, while the
kept leg is still sold. -/
theorem roll_abort_leaves_the_kept_leg :
    ¬ Agreement (run (ledgerStep owner) Ledger.fresh
      [⟨plain, 0, .openPosition 24600 24600 100 90 "entry_rules_beginning"⟩,
        ⟨plain, 1, .singleSideRoll .ce "ratio_exit" (some (24650, 80))⟩,
        ⟨plain, 2, .fill (abortOf (.openLeg .ce) 3 [.ce])⟩]) := by
  intro agreement
  have kept := agreement .pe 24600
  revert kept
  decide

end OptionChain.OrderStream
