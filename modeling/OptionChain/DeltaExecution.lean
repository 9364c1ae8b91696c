import Mathlib.Data.List.Induction
import OptionChain.DeltaBroker
import OptionChain.ExecutorSizing

/-!
# The executor over the Delta adapter

The executor reads an IOC order by polling its status and by a last fetch. Over the
Delta adapter neither ever raises: an unreadable answer is a cancelled order without a
fill, which ends the polling and books nothing, and the next order asks for the same
quantity again.

The exchange is an input. It keeps its own record of every order, also of one whose
POST was executed and whose answer was lost.
-/

namespace OptionChain.DeltaExecution

open Broker SmartExecutor ExecutorSizing DeltaBroker

/-- What the exchange and the network make of an order: the order that the exchange
holds, if any, and every answer that the call will get. An IOC order is over at once. -/
structure Placement (body : OrderBody) where
  order : Option ExchangeOrder
  post : Http String
  polls : List (Http OrderRecord)
  fetch : Http OrderRecord
  sized : ∀ held ∈ order, held.size = body.size
  ends : body.timeInForce = some "ioc" → ∀ held ∈ order, held.terminal = true
  tells : body.timeInForce = some "ioc" → ∀ reply ∈ fetch :: polls,
    ∀ record ∈ (requestSync reply).result, record ∈ order.map ExchangeOrder.record

section Placements

variable {body : OrderBody} (placement : Placement body) (clientId orderId : String)

/-- What the order filled at the exchange. -/
def Placement.filled : Int := placement.order.elim 0 ExchangeOrder.filled

/-- The status that the adapter returns for an answer. -/
def statusFill (reply : Http OrderRecord) : OrderFill :=
  (getOrderStatus clientId orderId reply).toOrderFill

/-- The order as the executor meets it. -/
def Placement.script : OrderScript where
  oid := orderId
  filled := placement.filled
  avgPrice := placement.order.elim 0 ExchangeOrder.averageFillPrice
  status := placement.order.elim .unknown (fun held => recordStatus held.record)
  polls := placement.polls.map (fun reply => some (statusFill clientId orderId reply))
  fetch := some (statusFill clientId orderId placement.fetch)

/-- The polling stands in for the last fetch: its first answer is readable and calls the
order COMPLETE. -/
def Placement.heard (held : ExchangeOrder) : Bool :=
  placement.polls.head?.any readable && decide (recordStatus held.record = .complete)

/-- An IOC order filled something, and neither its answers nor its price let the call
book it. -/
def Placement.missed : Bool :=
  placement.order.any (fun held => decide (0 < held.filled) &&
    !(decide (0 < held.averageFillPrice) && (readable placement.fetch || placement.heard held)))

/-- What such an order filled unseen. -/
def Placement.unread : Int := if placement.missed then placement.filled else 0

/-- The fill that a readable answer reports. -/
def told (held : ExchangeOrder) : OrderFill :=
  ⟨held.filled, if 0 < held.filled then held.averageFillPrice else 0, recordStatus held.record⟩

/-- An answer about a held order reports it, or a cancelled order without a fill. -/
theorem statusFill_held {held : ExchangeOrder} {reply : Http OrderRecord}
    (tells : ∀ record ∈ (requestSync reply).result, record = held.record) :
    statusFill clientId orderId reply =
      if readable reply then told held else ⟨0, 0, .cancelled⟩ := by
  unfold statusFill
  by_cases read : readable reply = true
  · rw [if_pos read, getOrderStatus_read clientId orderId tells read, record_filled]
    simp only [told, ExchangeOrder.record]
    congr 1
    split <;> rfl
  · rw [if_neg read]
    exact getOrderStatus_unread clientId orderId (Bool.not_eq_true _ ▸ read)

theorem priced_zero (price : Rat) : priced (0, price) = 0 := by
  simp [priced]

/-- Once the polling has passed a readable answer it books nothing any more. -/
theorem awaitFrom_passed {held : ExchangeOrder}
    (open_ : ¬ ((told held).status = .complete ∧ 0 < (told held).avgPrice))
    (replies : List (Http OrderRecord))
    (tells : ∀ reply ∈ replies, ∀ record ∈ (requestSync reply).result, record = held.record)
    (last : OrderFill) (passed : last.status = .complete → last.avgPrice ≤ 0) :
    priced ((awaitFrom last
        (replies.map fun reply => some (statusFill clientId orderId reply))).qty,
      (awaitFrom last
        (replies.map fun reply => some (statusFill clientId orderId reply))).avgPrice) = 0 := by
  induction replies generalizing last with
  | nil =>
    simp only [List.map_nil, awaitFrom]
    split
    · rename_i complete
      exact if_neg (fun priced => absurd (passed complete) (not_le.mpr priced.2))
    · exact priced_zero _
  | cons reply rest inductionHypothesis =>
    have here := statusFill_held clientId orderId (tells reply List.mem_cons_self)
    have later : ∀ other ∈ rest, ∀ record ∈ (requestSync other).result, record = held.record :=
      fun other found => tells other (List.mem_cons_of_mem _ found)
    rw [List.map_cons, here]
    split
    · unfold awaitFrom
      rw [if_neg open_]
      split
      · exact priced_zero _
      · exact inductionHypothesis later (told held)
          (fun complete => not_lt.mp (fun positive => open_ ⟨complete, positive⟩))
    · simp [awaitFrom, priced]

/-- What the polling of a held order books. -/
theorem awaitFill_held {held : ExchangeOrder}
    (tells : ∀ reply ∈ placement.polls, ∀ record ∈ (requestSync reply).result,
      record = held.record) :
    priced ((awaitFill (placement.script clientId orderId).polls).qty,
        (awaitFill (placement.script clientId orderId).polls).avgPrice) =
      if placement.heard held = true ∧ 0 < held.filled ∧ 0 < held.averageFillPrice then held.filled
      else 0 := by
  unfold awaitFill Placement.script Placement.heard
  dsimp only
  cases polls : placement.polls with
  | nil => simp [awaitFrom, priced]
  | cons reply rest =>
    rw [polls] at tells
    have here := statusFill_held clientId orderId (tells reply List.mem_cons_self)
    have later : ∀ other ∈ rest, ∀ record ∈ (requestSync other).result, record = held.record :=
      fun other found => tells other (List.mem_cons_of_mem _ found)
    rw [List.map_cons, here]
    by_cases read : readable reply = true
    · rw [if_pos read]
      by_cases complete : (told held).status = .complete ∧ 0 < (told held).avgPrice
      · have status : recordStatus held.record = .complete := complete.1
        have positive : 0 < held.filled := by
          by_contra none
          simp [told, none] at complete
        have price : 0 < held.averageFillPrice := by
          simpa [told, positive] using complete.2
        simp [awaitFrom, told, read, status, positive, price, priced]
      · have unheard : ¬ (((reply :: rest).head?.any readable &&
            decide (recordStatus held.record = .complete)) = true ∧ 0 < held.filled ∧
            0 < held.averageFillPrice) := by
          rintro ⟨heard, positive, price⟩
          apply complete
          constructor
          · simp only [Bool.and_eq_true, decide_eq_true_eq] at heard
            exact heard.2
          · simpa [told, positive] using price
        rw [if_neg unheard]
        unfold awaitFrom
        rw [if_neg complete]
        split
        · exact priced_zero _
        · exact awaitFrom_passed clientId orderId complete rest later (told held)
            (fun status => not_lt.mp (fun positive => complete ⟨status, positive⟩))
    · rw [if_neg read]
      simp [awaitFrom, priced, read]

/-- The booking of a script whose last fetch answers. -/
theorem priced_readIoc {script : OrderScript} {fetched : OrderFill}
    (fetch : script.fetch = some fetched) :
    priced (readIoc script) =
      if fetched.qty ≤ 0 then
        priced ((awaitFill script.polls).qty, (awaitFill script.polls).avgPrice)
      else priced (fetched.qty, fetched.avgPrice) := by
  unfold readIoc
  rw [fetch]
  dsimp only
  by_cases empty : fetched.qty ≤ 0
  · rw [if_pos empty]
    by_cases polled : 0 < (awaitFill script.polls).qty
    · rw [if_pos ⟨empty, polled⟩]
    · rw [if_neg (fun both => polled both.2)]
      simp [priced, polled, not_lt.mpr empty]
  · rw [if_neg empty, if_neg (fun both => empty both.1)]

/-- An order that the exchange does not hold books nothing. -/
theorem readIoc_unplaced (ioc : body.timeInForce = some "ioc") (order : placement.order = none) :
    priced (readIoc (placement.script clientId orderId)) = 0 := by
  have silent : ∀ reply ∈ placement.fetch :: placement.polls,
      statusFill clientId orderId reply = ⟨0, 0, .cancelled⟩ := by
    intro reply found
    apply getOrderStatus_unread
    rw [← result_isSome, ← Bool.not_eq_true, Option.isSome_iff_exists]
    rintro ⟨record, brought⟩
    have known := placement.tells ioc reply found record brought
    rw [order] at known
    cases known
  have fetch : (placement.script clientId orderId).fetch = some ⟨0, 0, .cancelled⟩ :=
    congrArg some (silent placement.fetch List.mem_cons_self)
  rw [priced_readIoc fetch, if_pos (le_refl (0 : Int))]
  unfold Placement.script
  dsimp only
  cases polls : placement.polls with
  | nil => simp [awaitFill, awaitFrom, priced]
  | cons reply rest =>
    rw [List.map_cons, silent reply (by simp [polls])]
    simp [awaitFill, awaitFrom, priced]

/-- What the call books of an IOC order: the whole fill or nothing. -/
theorem readIoc_placement (ioc : body.timeInForce = some "ioc") :
    priced (readIoc (placement.script clientId orderId)) = placement.filled - placement.unread := by
  cases order : placement.order with
  | none =>
    rw [readIoc_unplaced placement clientId orderId ioc order]
    simp [Placement.filled, Placement.unread, order]
  | some held =>
    have about : ∀ reply ∈ placement.fetch :: placement.polls,
        ∀ record ∈ (requestSync reply).result, record = held.record := by
      intro reply found record brought
      have known := placement.tells ioc reply found record brought
      rw [order] at known
      exact (Option.some.inj known).symm
    have polled := awaitFill_held placement clientId orderId
      (fun reply found => about reply (List.mem_cons_of_mem _ found))
    have fetch : (placement.script clientId orderId).fetch =
        some (if readable placement.fetch then told held else ⟨0, 0, .cancelled⟩) :=
      congrArg some (statusFill_held clientId orderId (about placement.fetch List.mem_cons_self))
    have nonnegative := held.nonnegative
    rw [priced_readIoc fetch, polled]
    simp only [Placement.filled, Placement.unread, Placement.missed, order, Option.elim_some,
      Option.any_some]
    by_cases positive : 0 < held.filled
    · by_cases price : 0 < held.averageFillPrice
      · cases readable placement.fetch <;> cases placement.heard held <;>
          simp [told, priced, positive, price, not_le.mpr positive]
      · cases readable placement.fetch <;>
          simp [told, priced, positive, price]
    · have zero : held.filled = 0 := by omega
      cases readable placement.fetch <;> simp [told, zero]

end Placements

/-! ## Runs of the executor -/

/-- The adapter of one call: its products, and what each request will meet. -/
structure DeltaVenue where
  clientId : String
  products : String → Option Int
  quotes : Nat → Http Quotes
  place : Nat → (body : OrderBody) → Placement body

section Run

variable (delta : DeltaVenue)

def DeltaVenue.productId (request : OrderRequest) : Option Int :=
  delta.products request.brokerSymbol.toUpper

/-- `place_order` for the n-th order of the call. -/
def DeltaVenue.answer (n : Nat) (request : OrderRequest) : Option OrderScript :=
  match placeOrder (delta.productId request) request (fun body => (delta.place n body).post) with
  | .error _ => none
  | .ok orderId =>
      (delta.productId request).map (fun productId =>
        (delta.place n (orderBody productId request)).script delta.clientId orderId)

def DeltaVenue.venue : Venue where
  quote n := some (getQuote (delta.quotes n))
  place := delta.answer

/-- What the n-th order filled at the exchange, accepted or not. -/
def DeltaVenue.filledAt (n : Nat) (request : OrderRequest) : Int :=
  (delta.productId request).elim 0
    (fun productId => (delta.place n (orderBody productId request)).filled)

def DeltaVenue.unreadAt (n : Nat) (request : OrderRequest) : Int :=
  (delta.productId request).elim 0
    (fun productId => (delta.place n (orderBody productId request)).unread)

/-- The quantity that the orders of a call filled at the exchange. -/
def DeltaVenue.executedQty (attempts : List Attempt) : Int :=
  (attempts.mapIdx (fun n attempt => delta.filledAt n attempt.request)).sum

/-- The part of it that IOC orders filled unseen. -/
def DeltaVenue.unreadQty (attempts : List Attempt) : Int :=
  (attempts.mapIdx (fun n attempt => delta.unreadAt n attempt.request)).sum

theorem executedQty_snoc (attempts : List Attempt) (attempt : Attempt) :
    delta.executedQty (attempts ++ [attempt]) =
      delta.executedQty attempts + delta.filledAt attempts.length attempt.request := by
  simp [DeltaVenue.executedQty, List.mapIdx_concat]

theorem unreadQty_snoc (attempts : List Attempt) (attempt : Attempt) :
    delta.unreadQty (attempts ++ [attempt]) =
      delta.unreadQty attempts + delta.unreadAt attempts.length attempt.request := by
  simp [DeltaVenue.unreadQty, List.mapIdx_concat]

/-- An accepted IOC order is booked for what it filled, unless that was not seen. -/
theorem bookedBy_answer {n : Nat} {attempt : Attempt}
    (answered : attempt.answer = delta.answer n attempt.request)
    (accepted : attempt.answer.isSome = true) (ioc : attempt.request.timeInForce = "ioc") :
    bookedBy attempt =
      delta.filledAt n attempt.request - delta.unreadAt n attempt.request := by
  unfold DeltaVenue.answer at answered
  cases known : delta.productId attempt.request with
  | none =>
    rw [known] at answered
    rw [answered] at accepted
    cases accepted
  | some productId =>
    rw [known] at answered
    cases placed : placeOrder (some productId) attempt.request
        (fun body => (delta.place n body).post) with
    | error reason =>
      rw [placed] at answered
      rw [answered] at accepted
      cases accepted
    | ok orderId =>
      rw [placed] at answered
      have lower : "ioc".toLower = "ioc" := by decide +kernel
      have killed : (orderBody productId attempt.request).timeInForce = some "ioc" := by
        simp [orderBody, ioc, lower]
      unfold bookedBy DeltaVenue.filledAt DeltaVenue.unreadAt
      rw [answered, known]
      exact readIoc_placement _ delta.clientId orderId killed

/-- Between two rungs the books miss what was not seen: induction on the orders. -/
theorem bookedQty_climbed (attempts : List Attempt)
    (answered : ∀ n attempt, attempts[n]? = some attempt →
      attempt.answer = delta.answer n attempt.request)
    (accepted : ∀ attempt ∈ attempts, attempt.answer.isSome = true)
    (ioc : ∀ attempt ∈ attempts, attempt.request.timeInForce = "ioc") :
    bookedQty attempts = delta.executedQty attempts - delta.unreadQty attempts := by
  induction attempts using List.reverseRecOn with
  | nil => rfl
  | append_singleton earlier last inductionHypothesis =>
    have before := inductionHypothesis
      (fun n attempt found => answered n attempt (by
        rw [List.getElem?_append_left (List.getElem?_eq_some_iff.mp found).1]
        exact found))
      (fun attempt found => accepted attempt (List.mem_append_left _ found))
      (fun attempt found => ioc attempt (List.mem_append_left _ found))
    have here := bookedBy_answer delta (answered earlier.length last (by simp))
      (accepted last (by simp)) (ioc last (by simp))
    rw [bookedQty_snoc, executedQty_snoc, unreadQty_snoc, before, here]
    ring

/-- The last order left at least as much unfilled as the orders before it had filled
unseen. -/
def DeltaVenue.Absorbed (attempts : List Attempt) : Prop :=
  ∃ earlier last, attempts = earlier ++ [last] ∧
    delta.unreadQty earlier ≤ last.request.qty - delta.filledAt earlier.length last.request

/-- What a call executes fits into the requested quantity exactly if the last order left
room for what was not seen. -/
theorem execute_leg_fits_iff (leg : LegOrder) (chases : Nat) (positive : 0 < leg.qty) :
    delta.executedQty (executeLeg delta.venue leg chases).1 ≤ leg.qty ↔
      delta.Absorbed (executeLeg delta.venue leg chases).1 := by
  have ended : Ended delta.venue leg (executeLeg delta.venue leg chases).1 :=
    execute_leg_ended chases positive
  obtain ⟨before, last, climbed, attempts, -, sized⟩ := ended
  have books := climbed.booked
  rw [bookedQty_climbed delta before.attempts climbed.answered climbed.accepted climbed.ioc]
    at books
  rw [attempts, executedQty_snoc]
  constructor
  · intro fits
    exact ⟨before.attempts, last, rfl, by omega⟩
  · rintro ⟨earlier, final, same, room⟩
    obtain ⟨rfl, rfl⟩ := List.append_inj' same rfl |>.imp_right List.singleton_inj.mp
    omega

/-- A status of the adapter is final exactly if the order was read, or is over without a
fill; and a call over it executes no more than requested exactly if its last order left
room for what its IOC orders had filled unseen. -/
theorem delta_finality_iff (leg : LegOrder) (chases : Nat) (positive : 0 < leg.qty) :
    (∀ orderId order reply, Tells order reply →
      (Final order (getOrderStatus delta.clientId orderId reply).toOrderFill ↔
        readable reply = true ∨ (order.terminal = true ∧ order.filled = 0))) ∧
    (delta.executedQty (executeLeg delta.venue leg chases).1 ≤ leg.qty ↔
      delta.Absorbed (executeLeg delta.venue leg chases).1) :=
  ⟨fun orderId order reply tells => final_iff delta.clientId orderId order reply tells,
    execute_leg_fits_iff delta leg chases positive⟩

end Run

/-- A sell order of the given size, filled whole. -/
def filledWhole (size : Int) (positive : 0 ≤ size) : ExchangeOrder where
  productSymbol := "C-BTC-60000-130626"
  side := "sell"
  state := "closed"
  size := size
  filled := size
  averageFillPrice := 102
  terminal := true
  nonnegative := positive
  sized := Int.le_refl size
  labelled _ := rfl
  whole _ _ := rfl

/-- The exchange fills every order whole. Its answers about the first one can be read, or
are rate limited. -/
def fillingPlace (read : Bool) (n : Nat) (body : OrderBody) : Placement body :=
  if sized : 0 ≤ body.size then
    let reply : Http OrderRecord :=
      if read ∨ 0 < n then
        .response { success := true, result := some (filledWhole body.size sized).record }
      else .rateLimited
    { order := some (filledWhole body.size sized)
      post := .response { success := true, result := some "O" }
      polls := [reply]
      fetch := reply
      sized := by rintro held ⟨⟩; rfl
      ends := by rintro _ held ⟨⟩; rfl
      tells := by
        rintro _ other found record brought
        have same : other = reply := by simpa using found
        subst same
        by_cases told : read = true ∨ 0 < n
        · simp only [reply, if_pos told] at brought
          exact brought
        · simp only [reply, if_neg told] at brought
          cases brought }
  else
    { order := none
      post := .response { success := false, result := none }
      polls := []
      fetch := .rateLimited
      sized := by rintro held ⟨⟩
      ends := by rintro _ held ⟨⟩
      tells := by
        rintro _ reply found record brought
        obtain rfl : reply = .rateLimited := by simpa using found
        cases brought }

def fillingVenue (read : Bool) : DeltaVenue where
  clientId := "c"
  products _ := some 27
  quotes _ := .response { success := true, result := some ⟨some 100, some 104⟩ }
  place := fillingPlace read

/-- A sale of ten with the limit ladder. -/
def saleOfTen : LegOrder where
  brokerSymbol := "C-BTC-60000-130626"
  exchange := "DELTA"
  side := .sell
  qty := 10
  product := "NRML"
  tag := "SS_BTC_ENTRY"
  clientId := "c"
  useLimit := true
  tick := 0

/-- A call whose first order can be read sells ten. -/
theorem delta_finality_of_a_read_order :
    (fillingVenue true).executedQty (executeLeg (fillingVenue true).venue saleOfTen 1).1 ≤ 10 := by
  have only : (executeLeg (fillingVenue true).venue saleOfTen 1).1 =
      [⟨limitRequest saleOfTen 10 102,
        (fillingVenue true).answer 0 (limitRequest saleOfTen 10 102)⟩] := by
    decide +kernel
  exact (delta_finality_iff (fillingVenue true) saleOfTen 1 (by decide)).2.mpr
    ⟨[], _, only, by decide⟩

/-- A rate-limited answer makes a filled order look cancelled without a fill, and the call
sells twenty of ten. -/
theorem rate_limited_order_sold_again :
    Tells (filledWhole 10 (by decide)) .rateLimited ∧
      ¬ Final (filledWhole 10 (by decide)) (getOrderStatus "c" "O" .rateLimited).toOrderFill ∧
      (fillingVenue false).executedQty (executeLeg (fillingVenue false).venue saleOfTen 1).1 =
        20 := by
  refine ⟨?_, ?_, by decide +kernel⟩
  · rintro record ⟨⟩
  · intro final
    have counted := (final (.inr (.inl rfl))).2
    revert counted
    decide

end OptionChain.DeltaExecution
