import OptionChain.Broker

/-!
# The Delta adapter

Every request goes through `_request_sync`, which turns HTTP 429 and exceptions into
ordinary bodies without a result. `get_order_status` cannot tell such a body from the
answer that an order does not exist, and reports the order as CANCELLED.

A status is final when the order can fill no more. The adapter reports finality truly
exactly when it could read the order, or when there was nothing to read.
-/

namespace OptionChain.DeltaBroker

open Broker

/-- An error is a text, or an object with a code and a context. -/
inductive ApiError where
  | text (message : String)
  | coded (code context : String)
deriving DecidableEq

/-- A decoded response body. An empty result counts as a missing one. -/
structure Body (α : Type) where
  success : Bool
  result : Option α
  error : Option ApiError := none
deriving DecidableEq

/-- What the HTTP layer makes of one request. -/
inductive Http (α : Type) where
  | response (body : Body α)
  | rateLimited
  | exception (message : String)
deriving DecidableEq

/-- `_request_sync`. -/
def requestSync {α : Type} : Http α → Body α
  | .response body => body
  | .rateLimited => { success := false, result := none, error := some (.text "rate_limited") }
  | .exception message => { success := false, result := none, error := some (.text message) }

/-- The answer brings a result. -/
def readable {α : Type} : Http α → Bool
  | .response body => body.result.isSome
  | .rateLimited => false
  | .exception _ => false

theorem result_isSome {α : Type} (reply : Http α) :
    (requestSync reply).result.isSome = readable reply := by
  cases reply <;> rfl

/-! ## Orders -/

/-- The best prices of a ticker. -/
structure Quotes where
  bestBid : Option Rat
  bestAsk : Option Rat
deriving DecidableEq

/-- `get_quote`: an unreadable ticker has no prices. -/
def getQuote (reply : Http Quotes) : Rat × Rat :=
  match (requestSync reply).result with
  | none => (0, 0)
  | some quotes => (quotes.bestBid.getD 0, quotes.bestAsk.getD 0)

/-- The body of an order. A price stands for its decimal text. -/
structure OrderBody where
  productId : Int
  size : Int
  side : String
  orderType : String
  limitPrice : Option Rat
  timeInForce : Option String
deriving DecidableEq

/-- The body that `place_order` sends. -/
def orderBody (productId : Int) (request : OrderRequest) : OrderBody where
  productId := productId
  size := request.qty
  side := match request.side with | .buy => "buy" | .sell => "sell"
  orderType := match request.orderType with | .market => "market_order" | .limit => "limit_order"
  limitPrice :=
    if request.orderType = .limit ∧ 0 < request.price then some request.price else none
  timeInForce :=
    if request.timeInForce.toLower ∈ ["ioc", "gtc", "fok"] then some request.timeInForce.toLower
    else none

def sideText : OrderSide → String
  | .buy => "OrderSide.BUY"
  | .sell => "OrderSide.SELL"

def missingProduct (request : OrderRequest) : String :=
  "Delta: no product_id for " ++ request.brokerSymbol ++ " (not in /v2/products)."

/-- The exchange's reason, verbatim. -/
def rejection (request : OrderRequest) (error : Option ApiError) : String :=
  let code := match error with
    | none => "None"
    | some (.text message) => message
    | some (.coded code _) => code
  let context := match error with
    | some (.coded _ context) => context
    | some (.text _) | none => "None"
  "Delta REJECTED " ++ sideText request.side ++ " " ++ toString request.qty ++ " " ++
    request.brokerSymbol ++ ": reason=" ++ code ++ " context=" ++ context

/-- `place_order`, given how the exchange answers the POST: the order id, or the text of
the exception. -/
def placeOrder (productId : Option Int) (request : OrderRequest)
    (post : OrderBody → Http String) : Except String String :=
  match productId with
  | none => .error (missingProduct request)
  | some productId =>
      let body := requestSync (post (orderBody productId request))
      match body.success, body.result with
      | true, some orderId => .ok orderId
      | true, none | false, _ => .error (rejection request body.error)

/-! ## Order status -/

/-- The record of an order. -/
structure OrderRecord where
  productSymbol : String
  side : String
  state : String
  size : Int
  unfilledSize : Option Int
  averageFillPrice : Option Rat
deriving DecidableEq

/-- `_STATUS`. -/
def statuses : List (String × OrderStatus) :=
  [("open", .open), ("pending", .open), ("closed", .complete), ("filled", .complete),
    ("cancelled", .cancelled), ("rejected", .rejected)]

/-- `size - unfilled_size`, which is the whole size unless the record says otherwise. -/
def OrderRecord.filled (record : OrderRecord) : Int :=
  max 0 (record.size - record.unfilledSize.getD record.size)

/-- The status of a record that was read. -/
def recordStatus (record : OrderRecord) : OrderStatus :=
  let status := statusIn statuses record.state.toLower
  if status = .unknown ∧ 0 < record.size ∧ record.unfilledSize.getD record.size = 0 then .complete
  else status

/-- `get_order_status`. No record is taken for an order that no longer exists. -/
def getOrderStatus (clientId orderId : String) (reply : Http OrderRecord) : FillReport :=
  match (requestSync reply).result with
  | none =>
      { qty := 0, avgPrice := 0, status := .cancelled, orderId := orderId, brokerSymbol := "",
        side := .sell, clientId := clientId }
  | some record =>
      { qty := record.filled
        avgPrice := record.averageFillPrice.getD 0
        status := recordStatus record
        orderId := orderId
        brokerSymbol := record.productSymbol
        side := if record.side = "buy" then .buy else .sell
        clientId := clientId }

/-- A status after which an order fills no more. -/
def Terminal (status : OrderStatus) : Prop :=
  status = .complete ∨ status = .cancelled ∨ status = .rejected

instance (status : OrderStatus) : Decidable (Terminal status) :=
  inferInstanceAs (Decidable (_ ∨ _ ∨ _))

/-- An order as the exchange holds it. A state that the table calls terminal is one,
and an order filled whole can fill no more. -/
structure ExchangeOrder where
  productSymbol : String
  side : String
  state : String
  size : Int
  filled : Int
  averageFillPrice : Rat
  terminal : Bool
  nonnegative : 0 ≤ filled
  sized : filled ≤ size
  labelled : Terminal (statusIn statuses state.toLower) → terminal = true
  whole : 0 < size → filled = size → terminal = true

/-- The record that the exchange gives of an order. -/
def ExchangeOrder.record (order : ExchangeOrder) : OrderRecord where
  productSymbol := order.productSymbol
  side := order.side
  state := order.state
  size := order.size
  unfilledSize := some (order.size - order.filled)
  averageFillPrice := if 0 < order.filled then some order.averageFillPrice else none

/-- An answer that brings a record brings the one of the order. -/
def Tells (order : ExchangeOrder) (reply : Http OrderRecord) : Prop :=
  ∀ record ∈ (requestSync reply).result, record = order.record

/-- A terminal answer about an order is true and counts what it filled. -/
def Final (order : ExchangeOrder) (fill : OrderFill) : Prop :=
  Terminal fill.status → order.terminal = true ∧ fill.qty = order.filled

section Status

variable (clientId orderId : String)

/-- An unreadable answer is reported as a cancelled order without a fill. -/
theorem getOrderStatus_unread {reply : Http OrderRecord} (unread : readable reply = false) :
    (getOrderStatus clientId orderId reply).toOrderFill = ⟨0, 0, .cancelled⟩ := by
  have missing : (requestSync reply).result = none := by
    rw [← result_isSome] at unread
    exact Option.not_isSome_iff_eq_none.mp (by simp [unread])
  unfold getOrderStatus
  rw [missing]

/-- A readable one is the reading of the order's record. -/
theorem getOrderStatus_read {order : ExchangeOrder} {reply : Http OrderRecord}
    (tells : Tells order reply) (read : readable reply = true) :
    (getOrderStatus clientId orderId reply).toOrderFill =
      ⟨order.record.filled, order.record.averageFillPrice.getD 0, recordStatus order.record⟩ := by
  rw [← result_isSome, Option.isSome_iff_exists] at read
  obtain ⟨record, found⟩ := read
  have same : record = order.record := tells record found
  subst same
  unfold getOrderStatus
  rw [found]

/-- The record counts what was filled. -/
theorem record_filled (order : ExchangeOrder) : order.record.filled = order.filled := by
  have nonnegative := order.nonnegative
  simp only [OrderRecord.filled, ExchangeOrder.record, Option.getD_some]
  omega

/-- A record with a terminal status is one of a terminal order. -/
theorem record_terminal (order : ExchangeOrder) (terminal : Terminal (recordStatus order.record)) :
    order.terminal = true := by
  unfold recordStatus at terminal
  dsimp only at terminal
  split at terminal
  · rename_i counted
    obtain ⟨-, positive, full⟩ := counted
    simp only [ExchangeOrder.record, Option.getD_some] at positive full
    exact order.whole positive (by omega)
  · exact order.labelled terminal

/-- A status is final exactly if the order was read, or is over without a fill. -/
theorem final_iff (order : ExchangeOrder) (reply : Http OrderRecord) (tells : Tells order reply) :
    Final order (getOrderStatus clientId orderId reply).toOrderFill ↔
      readable reply = true ∨ (order.terminal = true ∧ order.filled = 0) := by
  by_cases read : readable reply = true
  · rw [getOrderStatus_read clientId orderId tells read]
    constructor
    · intro _
      exact .inl read
    · intro _ terminal
      exact ⟨record_terminal order terminal, record_filled order⟩
  · rw [Bool.not_eq_true] at read
    rw [getOrderStatus_unread clientId orderId read]
    constructor
    · intro final
      obtain ⟨terminal, counted⟩ := final (.inr (.inl rfl))
      exact .inr ⟨terminal, counted.symm⟩
    · rintro (readableReply | ⟨terminal, empty⟩) _
      · rw [read] at readableReply
        cases readableReply
      · exact ⟨terminal, empty.symm⟩

end Status

end OptionChain.DeltaBroker
