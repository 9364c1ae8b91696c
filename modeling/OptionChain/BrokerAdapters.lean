import OptionChain.DeltaBroker
import OptionChain.ExecutorSizing

/-!
# Six adapters, one status interface

Each adapter turns what its exchange says about an order into an `OrderFill`. Zerodha
and Delta put the filled quantity into it; Upstox, Dhan, Angel and Fyers put the ordered
one. The executor books what it is given, so over these four a MARKET order counts as
filled to its size once it has a price.
-/

namespace OptionChain.BrokerAdapters

open Broker SmartExecutor ExecutorSizing

/-- The record of an order at Zerodha, Upstox, Dhan or Angel. Each has its own names for
these fields. A missing number is zero, a missing text empty. -/
structure OrderRecord where
  orderId : String
  tradingSymbol : String
  transactionType : String
  quantity : Int
  filledQuantity : Int
  averagePrice : Rat
  status : String
deriving DecidableEq

/-- A row of the Fyers order book. -/
structure FyersRecord where
  id : String
  symbol : String
  side : Int
  qty : Int
  filledQty : Int
  tradedPrice : Rat
  status : Int
deriving DecidableEq

/-! ## The status tables -/

def zerodhaStatuses : List (String × OrderStatus) :=
  [("complete", .complete), ("cancelled", .cancelled), ("rejected", .rejected), ("open", .open),
    ("trigger pending", .open), ("validation pending", .open), ("put order req received", .open),
    ("modify pending", .open), ("after market order req received", .open)]

def upstoxStatuses : List (String × OrderStatus) :=
  [("complete", .complete), ("cancelled", .cancelled), ("rejected", .rejected), ("open", .open),
    ("open pending", .open), ("trigger pending", .open), ("validation pending", .open),
    ("put order req received", .open), ("modify validation pending", .open),
    ("modify pending", .open), ("after market order req received", .open), ("modified", .open),
    ("not modified", .open)]

def dhanStatuses : List (String × OrderStatus) :=
  [("TRADED", .complete), ("CANCELLED", .cancelled), ("REJECTED", .rejected), ("PENDING", .open),
    ("TRANSIT", .open)]

def angelStatuses : List (String × OrderStatus) :=
  [("complete", .complete), ("cancelled", .cancelled), ("rejected", .rejected), ("open", .open)]

def fyersStatuses : List (Int × OrderStatus) := [(2, .complete), (6, .cancelled), (5, .rejected)]

/-! ## The adapters -/

section Adapters

variable (clientId orderId : String)

/-- The answer about an order that was not found. -/
def unknownFill (clientId orderId : String) : FillReport where
  qty := 0
  avgPrice := 0
  status := .unknown
  orderId := orderId
  brokerSymbol := ""
  side := .buy
  clientId := clientId

/-- The reading of a record: the quantity of some field, and the status of some table. -/
def recordFill (table : List (String × OrderStatus)) (word : String → String)
    (qty : OrderRecord → Int) (record : OrderRecord) : FillReport where
  qty := qty record
  avgPrice := record.averagePrice
  status := statusIn table (word record.status)
  orderId := orderId
  brokerSymbol := record.tradingSymbol
  side := if record.transactionType = "BUY" then .buy else .sell
  clientId := clientId

def zerodhaFill : OrderRecord → FillReport :=
  recordFill clientId orderId zerodhaStatuses String.toLower OrderRecord.filledQuantity

def upstoxFill : OrderRecord → FillReport :=
  recordFill clientId orderId upstoxStatuses String.toLower OrderRecord.quantity

def dhanFill : OrderRecord → FillReport :=
  recordFill clientId orderId dhanStatuses id OrderRecord.quantity

def angelFill : OrderRecord → FillReport :=
  recordFill clientId orderId angelStatuses String.toLower OrderRecord.quantity

def fyersFill (record : FyersRecord) : FillReport where
  qty := record.qty
  avgPrice := record.tradedPrice
  status := statusIn fyersStatuses record.status
  orderId := orderId
  brokerSymbol := record.symbol
  side := if record.side = 1 then .buy else .sell
  clientId := clientId

/-- The brokers with an adapter. -/
inductive Adapter where
  | zerodha
  | upstox
  | dhan
  | angel
  | fyers
  | delta
deriving DecidableEq

/-- A status envelope around some data. -/
structure Envelope (δ : Type) where
  status : String
  data : δ
deriving DecidableEq

/-- What a broker's client returns for a status request; none is an exception. An empty
answer has an empty status or no rows. -/
inductive Reply : Adapter → Type where
  | zerodha (history : Option (List OrderRecord)) : Reply .zerodha
  | upstox (answer : Option (Envelope (List OrderRecord))) : Reply .upstox
  | dhan (answer : Option (Envelope OrderRecord)) : Reply .dhan
  | angel (rows : Option (List OrderRecord)) : Reply .angel
  | fyers (rows : Option (List FyersRecord)) : Reply .fyers
  | delta (answer : DeltaBroker.Http DeltaBroker.OrderRecord) : Reply .delta

/-- The orders that the answers of Upstox and Dhan carry. -/
def Envelope.first (answer : Envelope (List OrderRecord)) : Option OrderRecord :=
  if answer.status = "success" then answer.data.head? else none

def Envelope.only (answer : Envelope OrderRecord) : Option OrderRecord :=
  if answer.status = "success" then some answer.data else none

def byId (rows : List OrderRecord) : Option OrderRecord :=
  rows.find? (fun record => record.orderId = orderId)

def byFyersId (rows : List FyersRecord) : Option FyersRecord :=
  rows.find? (fun record => record.id = orderId)

/-- What is read from the record `{}`. -/
def noRecord : OrderRecord := ⟨"", "", "", 0, 0, 0, ""⟩

/-- `get_order_status`. Zerodha and Upstox answer for an exception, Dhan, Angel and Fyers
pass it on. -/
def getOrderStatus {adapter : Adapter} : Reply adapter → Option FillReport
  | .zerodha none => some (unknownFill clientId orderId)
  | .zerodha (some history) =>
      some (zerodhaFill clientId orderId (history.getLast?.getD noRecord))
  | .upstox answer =>
      some (((answer.bind Envelope.first).map (upstoxFill clientId orderId)).getD
        (unknownFill "" orderId))
  | .dhan answer =>
      answer.map (fun answer =>
        (answer.only.map (dhanFill clientId orderId)).getD (unknownFill "" orderId))
  | .angel rows =>
      rows.map (fun rows =>
        ((byId orderId rows).map (angelFill clientId orderId)).getD (unknownFill "" orderId))
  | .fyers rows =>
      rows.map (fun rows =>
        ((byFyersId orderId rows).map (fyersFill clientId orderId)).getD (unknownFill "" orderId))
  | .delta answer => some (DeltaBroker.getOrderStatus clientId orderId answer)

/-- The sizes in the exchange's own record. -/
structure Sizes where
  ordered : Int
  filled : Int
deriving DecidableEq

def OrderRecord.sizes (record : OrderRecord) : Sizes := ⟨record.quantity, record.filledQuantity⟩

/-- The order that an answer returns, if any. -/
def order {adapter : Adapter} : Reply adapter → Option Sizes
  | .zerodha history => (history.bind List.getLast?).map OrderRecord.sizes
  | .upstox answer => (answer.bind Envelope.first).map OrderRecord.sizes
  | .dhan answer => (answer.bind Envelope.only).map OrderRecord.sizes
  | .angel rows => (rows.bind (byId orderId)).map OrderRecord.sizes
  | .fyers rows =>
      (rows.bind (byFyersId orderId)).map (fun record => ⟨record.qty, record.filledQty⟩)
  | .delta answer =>
      (DeltaBroker.requestSync answer).result.bind (fun record =>
        record.unfilledSize.map (fun unfilled => ⟨record.size, record.size - unfilled⟩))

/-- The adapters that put the filled quantity into the answer. -/
def Adapter.readsFilled : Adapter → Bool
  | .zerodha | .delta => true
  | .upstox | .dhan | .angel | .fyers => false

/-- The quantity that an adapter reads of an order. -/
def Adapter.reads (adapter : Adapter) (sizes : Sizes) : Int :=
  if adapter.readsFilled then sizes.filled else sizes.ordered

variable {adapter : Adapter}

/-- An answer that returns an order is answered with the quantity that the adapter reads. -/
theorem getOrderStatus_order {reply : Reply adapter} {sizes : Sizes}
    (returned : order orderId reply = some sizes) (nonnegative : 0 ≤ sizes.filled) :
    ∃ fill, getOrderStatus clientId orderId reply = some fill ∧ fill.qty = adapter.reads sizes := by
  cases reply with
  | zerodha history =>
    cases history with
    | none => cases returned
    | some history =>
      obtain ⟨record, last, rfl⟩ := Option.map_eq_some_iff.mp returned
      have latest : history.getLast? = some record := last
      exact ⟨_, rfl, by rw [latest]; rfl⟩
  | upstox answer =>
    obtain ⟨record, first, rfl⟩ := Option.map_eq_some_iff.mp returned
    exact ⟨_, rfl, by rw [first]; rfl⟩
  | dhan answer =>
    obtain ⟨record, only, rfl⟩ := Option.map_eq_some_iff.mp returned
    obtain ⟨answer, rfl, carried⟩ := Option.bind_eq_some_iff.mp only
    exact ⟨_, rfl, by dsimp only; rw [carried]; rfl⟩
  | angel rows =>
    obtain ⟨record, row, rfl⟩ := Option.map_eq_some_iff.mp returned
    obtain ⟨rows, rfl, found⟩ := Option.bind_eq_some_iff.mp row
    exact ⟨_, rfl, by dsimp only; rw [found]; rfl⟩
  | fyers rows =>
    obtain ⟨record, row, rfl⟩ := Option.map_eq_some_iff.mp returned
    obtain ⟨rows, rfl, found⟩ := Option.bind_eq_some_iff.mp row
    exact ⟨_, rfl, by dsimp only; rw [found]; rfl⟩
  | delta answer =>
    obtain ⟨record, read, counted⟩ := Option.bind_eq_some_iff.mp returned
    obtain ⟨unfilled, known, rfl⟩ := Option.map_eq_some_iff.mp counted
    refine ⟨_, rfl, ?_⟩
    unfold DeltaBroker.getOrderStatus
    rw [read]
    dsimp only [DeltaBroker.OrderRecord.filled]
    rw [known]
    exact max_eq_right nonnegative

/-- Without an order there is no quantity. -/
theorem getOrderStatus_unreturned {reply : Reply adapter} (missing : order orderId reply = none)
    {fill : FillReport} (answered : getOrderStatus clientId orderId reply = some fill) :
    fill.qty = 0 := by
  cases reply with
  | zerodha history =>
    cases history with
    | none =>
      cases answered
      rfl
    | some history =>
      have empty : history.getLast? = none := Option.map_eq_none_iff.mp missing
      obtain rfl := Option.some.inj answered
      rw [empty]
      rfl
  | upstox answer =>
    have empty : answer.bind Envelope.first = none := Option.map_eq_none_iff.mp missing
    obtain rfl := Option.some.inj answered
    rw [empty]
    rfl
  | dhan answer =>
    obtain ⟨answer, rfl, filled⟩ := Option.map_eq_some_iff.mp answered
    have empty : answer.only = none := Option.map_eq_none_iff.mp missing
    rw [← filled, empty]
    rfl
  | angel rows =>
    obtain ⟨rows, rfl, filled⟩ := Option.map_eq_some_iff.mp answered
    have empty : byId orderId rows = none := Option.map_eq_none_iff.mp missing
    rw [← filled, empty]
    rfl
  | fyers rows =>
    obtain ⟨rows, rfl, filled⟩ := Option.map_eq_some_iff.mp answered
    have empty : byFyersId orderId rows = none := Option.map_eq_none_iff.mp missing
    rw [← filled, empty]
    rfl
  | delta answer =>
    obtain rfl := Option.some.inj answered
    unfold DeltaBroker.getOrderStatus
    cases read : (DeltaBroker.requestSync answer).result with
    | none => rfl
    | some record =>
      have unknown : record.unfilledSize = none := by
        simpa [order, read] using missing
      simp [DeltaBroker.OrderRecord.filled, unknown]

end Adapters

/-! ## The MARKET path -/

section Bounds

variable {bound : Int}

/-- The polls end on no more than one of their answers. -/
theorem awaitFrom_bounded {last : OrderFill} {polls : List (Option OrderFill)}
    (positive : 0 ≤ bound) (started : last.qty ≤ bound)
    (answers : ∀ fill, some fill ∈ polls → fill.qty ≤ bound) :
    (awaitFrom last polls).qty ≤ bound := by
  induction polls generalizing last with
  | nil =>
    simp only [awaitFrom]
    split
    · exact started
    · exact positive
  | cons poll rest inductionHypothesis =>
    have later : ∀ fill, some fill ∈ rest → fill.qty ≤ bound :=
      fun fill found => answers fill (List.mem_cons_of_mem _ found)
    cases poll with
    | none => exact inductionHypothesis started later
    | some fill =>
      have here : fill.qty ≤ bound := answers fill List.mem_cons_self
      unfold awaitFrom
      split
      · exact here
      · split
        · exact positive
        · exact inductionHypothesis here later

/-- A MARKET order is booked for no more than one of its answers. -/
theorem readMarket_bounded {script : OrderScript} {read : Int × Rat}
    (positive : 0 ≤ bound) (answers : ∀ fill, some fill ∈ script.fetch :: script.polls →
      fill.qty ≤ bound) (booked : readMarket script = some read) : priced read ≤ bound := by
  have polled : (awaitFill script.polls).qty ≤ bound :=
    awaitFrom_bounded positive positive
      (fun fill found => answers fill (List.mem_cons_of_mem _ found))
  have taken : read.1 ≤ bound := by
    unfold readMarket at booked
    dsimp only at booked
    split at booked
    · obtain ⟨fill, fetched, rfl⟩ := Option.map_eq_some_iff.mp booked
      exact answers fill (by simp [fetched])
    · cases booked
      exact polled
  unfold priced
  split
  · exact taken
  · exact positive

/-- A call on the MARKET path reports no more than that. -/
theorem executeLeg_market {venue : Venue} {leg : LegOrder} {chases : Nat} {script : OrderScript}
    (market : leg.useLimit = false) (placed : ∀ request, venue.place 0 request = some script)
    (positive : 0 ≤ bound)
    (answers : ∀ fill, some fill ∈ script.fetch :: script.polls → fill.qty ≤ bound) :
    ∀ fill ∈ (executeLeg venue leg chases).2, fill.filledQty ≤ bound := by
  intro fill reported
  have path : orders venue leg chases = SmartExecutor.market venue leg .empty := by
    unfold orders
    rw [if_neg (by simp [market])]
  unfold executeLeg at reported
  rw [path] at reported
  unfold SmartExecutor.market at reported
  dsimp only at reported
  have first : venue.place Progress.empty.attempts.length
      (marketRequest leg (leg.qty - Progress.empty.filledQty)) = some script := placed _
  rw [first] at reported
  dsimp only at reported
  cases booked : readMarket script with
  | none =>
    rw [booked] at reported
    cases reported
  | some read =>
    rw [booked] at reported
    obtain rfl := Option.some.inj reported
    have fits := readMarket_bounded positive answers booked
    simp only [legFill, book_filledQty, attempt_filledQty]
    exact (Int.zero_add _).symm ▸ fits

end Bounds

/-- A MARKET order at a broker, every answer that the call gets about it, and what it
filled in the end. The exchange's records grow towards that. -/
structure MarketRun (adapter : Adapter) where
  clientId : String
  orderId : String
  outcome : OrderFill
  polls : List (Reply adapter)
  fetch : Reply adapter
  nonnegative : 0 ≤ outcome.qty
  records : ∀ reply ∈ fetch :: polls, ∀ sizes ∈ order orderId reply,
    0 ≤ sizes.filled ∧ sizes.filled ≤ sizes.ordered ∧ sizes.filled ≤ outcome.qty

section Run

variable {adapter : Adapter} (run : MarketRun adapter)

def MarketRun.replies : List (Reply adapter) := run.fetch :: run.polls

def MarketRun.read (reply : Reply adapter) : Option OrderFill :=
  (getOrderStatus run.clientId run.orderId reply).map FillReport.toOrderFill

def MarketRun.script : OrderScript where
  oid := run.orderId
  filled := run.outcome.qty
  avgPrice := run.outcome.avgPrice
  status := run.outcome.status
  polls := run.polls.map run.read
  fetch := run.read run.fetch

def MarketRun.venue : Venue where
  quote _ := none
  place _ _ := some run.script

/-- Every order that is returned is reported with the quantity filled so far. -/
def MarketRun.ReportsFilled : Prop :=
  ∀ reply ∈ run.replies, ∀ sizes ∈ order run.orderId reply,
    ∃ fill ∈ run.read reply, fill.qty = sizes.filled

/-- Every order that is returned was filled whole, unless the adapter reads fills. -/
def MarketRun.FilledWhole : Prop :=
  adapter.readsFilled = true ∨
    ∀ reply ∈ run.replies, ∀ sizes ∈ order run.orderId reply, sizes.filled = sizes.ordered

theorem reportsFilled_iff : run.ReportsFilled ↔ run.FilledWhole := by
  constructor
  · intro reports
    by_cases reads : adapter.readsFilled = true
    · exact .inl reads
    · right
      intro reply found sizes returned
      obtain ⟨report, answered, qty⟩ := getOrderStatus_order run.clientId run.orderId returned
        (run.records reply found sizes returned).1
      obtain ⟨fill, told, counted⟩ := reports reply found sizes returned
      have same : report.toOrderFill = fill := by
        simpa [MarketRun.read, answered] using told
      have counted : report.qty = sizes.filled := same ▸ counted
      have ordered : report.qty = sizes.ordered := by
        rw [qty, Adapter.reads, if_neg reads]
      exact counted.symm.trans ordered
  · intro whole reply found sizes returned
    obtain ⟨report, answered, qty⟩ := getOrderStatus_order run.clientId run.orderId returned
      (run.records reply found sizes returned).1
    refine ⟨report.toOrderFill, by simp [MarketRun.read, answered], ?_⟩
    rw [qty, Adapter.reads]
    split
    · rfl
    · rename_i reads
      exact (whole.resolve_left reads reply found sizes returned).symm

/-- A run whose answers report fills books no more than the order filled. -/
theorem read_bounded (reports : run.ReportsFilled) {reply : Reply adapter}
    (found : reply ∈ run.replies) {fill : OrderFill} (told : run.read reply = some fill) :
    fill.qty ≤ run.outcome.qty := by
  obtain ⟨report, answered, rfl⟩ := Option.map_eq_some_iff.mp told
  cases returned : order run.orderId reply with
  | none =>
    have zero := getOrderStatus_unreturned run.clientId run.orderId returned answered
    exact zero ▸ run.nonnegative
  | some sizes =>
    obtain ⟨fill, same, counted⟩ := reports reply found sizes returned
    obtain rfl := Option.some.inj (told.symm.trans same)
    exact counted ▸ (run.records reply found sizes returned).2.2

/-- The answers report the filled quantity and the MARKET path no more than was filled,
exactly if the adapter reads fills or every order it was told of was filled whole. -/
theorem filled_quantity_iff (leg : LegOrder) (chases : Nat) (market : leg.useLimit = false) :
    (run.ReportsFilled ∧
      ∀ fill ∈ (executeLeg run.venue leg chases).2, fill.filledQty ≤ run.outcome.qty) ↔
    run.FilledWhole := by
  constructor
  · rintro ⟨reports, -⟩
    exact (reportsFilled_iff run).mp reports
  · intro whole
    have reports := (reportsFilled_iff run).mpr whole
    refine ⟨reports, ?_⟩
    apply executeLeg_market market (fun _ => rfl) run.nonnegative
    intro fill answered
    have told : ∃ reply ∈ run.replies, run.read reply = some fill := by
      rcases List.mem_cons.mp answered with fetched | polled
      · exact ⟨run.fetch, List.mem_cons_self, fetched.symm⟩
      · obtain ⟨reply, found, same⟩ := List.mem_map.mp polled
        exact ⟨reply, List.mem_cons_of_mem _ found, same⟩
    obtain ⟨reply, found, same⟩ := told
    exact read_bounded run reports found same

end Run

/-- A sale of fifty on the MARKET path. -/
def saleOfFifty : LegOrder where
  brokerSymbol := "NIFTY2661624500CE"
  exchange := "NFO"
  side := .sell
  qty := 50
  product := "MIS"
  tag := "SS_NIFTY_ENTRY"
  clientId := "c"
  useLimit := false
  tick := 0

/-- An order for fifty that was cancelled after it had filled twenty. -/
def cancelledAtTwenty : OrderRecord where
  orderId := "1"
  tradingSymbol := "NIFTY2661624500CE"
  transactionType := "SELL"
  quantity := 50
  filledQuantity := 20
  averagePrice := 101
  status := "cancelled"

/-- It is the last record of the order's history. -/
def zerodhaRun : MarketRun .zerodha where
  clientId := "c"
  orderId := "1"
  outcome := ⟨20, 101, .cancelled⟩
  polls := [.zerodha (some [cancelledAtTwenty])]
  fetch := .zerodha (some [cancelledAtTwenty])
  nonnegative := by decide
  records := by
    intro reply found sizes returned
    obtain rfl : reply = .zerodha (some [cancelledAtTwenty]) := by simpa using found
    cases returned
    decide

/-- It is the order that the envelope carries. -/
def upstoxRun : MarketRun .upstox where
  clientId := "c"
  orderId := "1"
  outcome := ⟨20, 101, .cancelled⟩
  polls := [.upstox (some ⟨"success", [cancelledAtTwenty]⟩)]
  fetch := .upstox (some ⟨"success", [cancelledAtTwenty]⟩)
  nonnegative := by decide
  records := by
    intro reply found sizes returned
    obtain rfl : reply = .upstox (some ⟨"success", [cancelledAtTwenty]⟩) := by simpa using found
    cases returned
    decide

/-- Zerodha reports the twenty. -/
theorem zerodha_reports_the_fill :
    zerodhaRun.ReportsFilled ∧
      ∀ fill ∈ (executeLeg zerodhaRun.venue saleOfFifty 1).2, fill.filledQty ≤ 20 :=
  (filled_quantity_iff zerodhaRun saleOfFifty 1 rfl).mpr (.inl rfl)

/-- Upstox reports fifty, and the call returns a complete leg of fifty. -/
theorem upstox_reports_the_order :
    ¬ upstoxRun.ReportsFilled ∧
      (executeLeg upstoxRun.venue saleOfFifty 1).2 = some ⟨50, 101, ["1"], true⟩ ∧
      upstoxRun.outcome.qty = 20 := by
  refine ⟨?_, by decide +kernel, rfl⟩
  intro reports
  obtain ⟨fill, told, counted⟩ := reports upstoxRun.fetch List.mem_cons_self ⟨50, 20⟩ rfl
  obtain rfl := Option.some.inj told
  revert counted
  decide

end OptionChain.BrokerAdapters
