import Mathlib.Logic.Function.Basic
import OptionChain.CircuitBreaker
import OptionChain.ContractSymbols
import OptionChain.Mailboxes
import OptionChain.Rounding

/-!
# Signals to the workers of the clients

`ExecutionRouter` puts a valid signal into the mailbox of every client at once, and the
worker of a client places one order for it at each live broker of the client. The workers
run beside each other and beside the router.

`worker_exact` says that a client is served on its own: its orders are those of the signals
it was given room for, one for each live broker, in order, whatever becomes of the orders
and whatever the other workers do. A broker that fails is no failure of the worker, so the
circuit never opens. `default_silent` says that a client with the default strategies places
no order at all: the letters of the strategies are not among them.

The instrument registry answers; what a caller does with the fills is left out.
-/

namespace OptionChain.OrderFanout

open Broker CivilDates ContractSymbols Runs

section Signals

inductive StrategyID where
  | trapScanner
  | sellStraddle
  | ironCondor
deriving DecidableEq

def StrategyID.value : StrategyID → String
  | .trapScanner => "TrapScanner"
  | .sellStraddle => "SellStraddle"
  | .ironCondor => "IronCondor"

/-- The hour, minute and second of a signal are all that is read of its time. -/
structure SignalPackage where
  source : StrategyID
  underlying : String
  optionType : OptType
  targetStrike : Rat
  entrySpot : Rat
  stopSpot : Rat
  targetSpot : Rat
  confidence : Rat
  timestamp : Nat × Nat × Nat
deriving DecidableEq

namespace SignalPackage

variable (signal : SignalPackage)

def risk : Rat := |signal.entrySpot - signal.stopSpot|

def reward : Rat := |signal.targetSpot - signal.entrySpot|

def rrRatio : Rat := if 0 < signal.risk then signal.reward / signal.risk else 0

/-- `is_valid` with its defaults. -/
def isValid : Bool := decide (2 ≤ signal.rrRatio) && decide (1 / 2 ≤ signal.confidence)

end SignalPackage

/-- `_SOURCE_TO_LETTER`. -/
def sourceToLetter : List (String × String) :=
  [("OI_Zone_Breakout", "A"), ("Liquidity_Trap", "B"), ("TrapTrading_Engine", "B"),
    ("Panic_Scanner", "C")]

def strategyLetter (sourceValue : String) : String :=
  match sourceToLetter.lookup sourceValue with
  | some letter => letter
  | none => if sourceValue = "" then "?" else (sourceValue.take 1).toString.toUpper

end Signals

section Clients

inductive ExpiryPreference where
  | currentWeek
  | nextWeek
  | monthly
deriving DecidableEq

/-- A broker of a worker: its binding, the provider of the binding, and whether the trading
mode is live. -/
structure Binding where
  bindingId : String
  provider : String
  live : Bool
deriving DecidableEq

/-- A client with the brokers of its worker, in the order of their bindings. -/
structure Client where
  clientId : String
  enabledStrategies : List String := ["A", "B", "C"]
  expiryPreference : ExpiryPreference := .currentWeek
  capital : Rat := 500000
  maxRiskPerTradePct : Rat := 1
  sizeMultiplier : Rat := 1
  brokers : List Binding := []
deriving DecidableEq

/-- The instrument registry and the lot sizes of the exchange. -/
structure Market where
  registry : InstrumentRegistry
  isLoaded : String → Bool
  lotSizes : List (String × Int)

variable (market : Market) (client : Client)

/-- The last expiry of its month among those that are left. -/
def lastOfMonth (future : List Date) : Option Date :=
  (future.find? fun expiry =>
    match future[future.idxOf expiry + 1]? with
    | none => true
    | some next => decide (next.month ≠ expiry.month)).or future.getLast?

/-- `_derive_expiry`. -/
def deriveExpiry (underlying : String) (today : Date) : Option Date :=
  if market.isLoaded underlying then
    let future := (market.registry.allExpiries underlying).filter fun expiry =>
      decide (today ≤ expiry)
    match client.expiryPreference with
    | .nextWeek => if 1 < future.length then future[1]? else future.head?
    | .monthly => lastOfMonth future
    | .currentWeek => future.head?
  else none

/-- `_translate`: without an expiry the registry raises, and the answer is none. -/
def translate (signal : SignalPackage) (provider : String) (today : Date) : Option String :=
  (deriveExpiry market client signal.underlying today).map fun expiry =>
    market.registry.getBrokerSymbol
      ⟨signal.underlying, Rounding.towardZero signal.targetStrike, signal.optionType, expiry⟩
      provider

def lotSize (underlying : String) : Int := (market.lotSizes.lookup underlying).getD 25

/-- `_compute_lots`, with an assumed stop of fifty points. -/
def computeLots (signal : SignalPackage) : Int :=
  let maxRisk := client.capital * client.maxRiskPerTradePct / 100
  let riskPerLot : Rat := 50 * lotSize market signal.underlying
  if riskPerLot ≤ 0 then 0
  else max 1 (min (Rounding.towardZero (maxRisk / riskPerLot * client.sizeMultiplier)) 10)

/-- The request of `_place`. -/
def request (signal : SignalPackage) (symbol : String) (qty : Int) : OrderRequest where
  brokerSymbol := symbol
  exchange := if signal.underlying = "SENSEX" then "BFO" else "NFO"
  side := .buy
  qty := qty
  orderType := .market
  tag := client.clientId ++ "_" ++ signal.source.value ++ "_" ++ twoDigits signal.timestamp.1 ++
    twoDigits signal.timestamp.2.1 ++ twoDigits signal.timestamp.2.2
  clientId := client.clientId

/-- Whether the letter of a signal is one of the client's strategies. -/
def enabled (signal : SignalPackage) : Bool :=
  decide (strategyLetter signal.source.value ∈ client.enabledStrategies.map String.toUpper)

/-- The request that `_process` makes for one broker. -/
def requestFor (signal : SignalPackage) (today : Date) (binding : Binding) :
    Option (String × OrderRequest) :=
  if binding.live then
    match translate market client signal binding.provider today with
    | none => none
    | some symbol =>
        let lots := computeLots market client signal
        if lots ≤ 0 then none
        else some (binding.bindingId,
          request client signal symbol (lots * lotSize market signal.underlying))
  else none

/-- The requests that `_process` hands to `_place`, with their bindings. -/
def requests (signal : SignalPackage) (today : Date) : List (String × OrderRequest) :=
  if enabled client signal then client.brokers.filterMap (requestFor market client signal today)
  else []

end Clients

section Pool

/-- `_WORKER_QUEUE_SIZE`. -/
def workerQueueSize : Nat := 100

/-- `ClientExecutionWorker`. The dropped signals of the queue and of the circuit are counted
together. -/
structure Worker where
  queue : List SignalPackage := []
  breaker : CircuitBreaker.Worker := {}
  processed : Nat := 0
  dailyTrades : Nat := 0
deriving DecidableEq

/-- What becomes of a request at its broker: an error of `place_order` or of
`get_order_status`, or the fill. -/
inductive Outcome where
  | rejected
  | unread
  | filled (fill : FillReport)
deriving DecidableEq

/-- A signal that the router takes from the bus; a turn of a worker, with the readings of the
clock, the date, and what the brokers will answer. -/
inductive Event where
  | signal (package : SignalPackage)
  | turn (clientId : String) (now later : Rat) (today : Date) (answers : String → Outcome)

inductive Output where
  | order (clientId bindingId : String) (request : OrderRequest)
  | fill (clientId : String) (report : FillReport)
deriving DecidableEq

/-- `enqueue`. -/
def Worker.enqueue (worker : Worker) (signal : SignalPackage) : Worker :=
  if Mailboxes.full workerQueueSize worker.queue then
    { worker with breaker := { worker.breaker with dropped := worker.breaker.dropped + 1 } }
  else { worker with queue := worker.queue ++ [signal] }

variable (market : Market)

/-- The fills of the requests of a signal. -/
def fills (made : List (String × OrderRequest)) (answers : String → Outcome) : List FillReport :=
  made.filterMap fun entry =>
    match answers entry.1 with
    | .filled report => some report
    | _ => none

/-- A round of `ClientExecutionWorker.run`. No error of a broker leaves `_place`. -/
def Worker.turn (client : Client) (worker : Worker) (now later : Rat) (today : Date)
    (answers : String → Outcome) : Worker :=
  match worker.queue with
  | [] => { worker with breaker := worker.breaker.maybeResetCircuit now }
  | signal :: rest =>
      let guarded := worker.breaker.guard now
      if guarded.2 then
        { queue := rest
          breaker := guarded.1.settle false later
          processed := worker.processed + if enabled client signal then 1 else 0
          dailyTrades := worker.dailyTrades +
            (fills (requests market client signal today) answers).length }
      else { worker with queue := rest, breaker := guarded.1 }

/-- The signal that a turn attempts. -/
def Worker.attempt (worker : Worker) (now : Rat) : Option SignalPackage :=
  match worker.queue with
  | [] => none
  | signal :: _ => if (worker.breaker.guard now).2 then some signal else none

/-- The orders and fills of a signal, broker by broker. -/
def place (client : Client) (signal : SignalPackage) (today : Date) (answers : String → Outcome) :
    List Output :=
  (requests market client signal today).flatMap fun entry =>
    .order client.clientId entry.1 entry.2 ::
      match answers entry.1 with
      | .filled report => [.fill client.clientId report]
      | _ => []

/-- The registered clients, one worker each. -/
structure Pool where
  clients : List Client
  distinct : (clients.map Client.clientId).Nodup

variable (pool : Pool)

def Pool.find (clientId : String) : Option Client := pool.clients.find? (·.clientId = clientId)

/-- `_dispatch` of the router, and a turn of a worker. -/
def step (workers : String → Worker) : Event → String → Worker
  | .signal package =>
      if package.isValid then fun clientId =>
        if clientId ∈ pool.clients.map Client.clientId then (workers clientId).enqueue package
        else workers clientId
      else workers
  | .turn clientId now later today answers =>
      match pool.find clientId with
      | none => workers
      | some client =>
          Function.update workers clientId
            ((workers clientId).turn market client now later today answers)

def send (workers : String → Worker) : Event → List Output
  | .signal _ => []
  | .turn clientId now _ today answers =>
      match pool.find clientId with
      | none => []
      | some client =>
          match (workers clientId).attempt now with
          | none => []
          | some signal => place market client signal today answers

def start : String → Worker := fun _ => {}

end Pool

/-! ## One worker -/

section Alone

variable (market : Market) (client : Client)

/-- What an event is for the mailbox of a client. -/
def traffic (clientId : String) : Event → List (Mailboxes.Event SignalPackage)
  | .signal package => if package.isValid then [.put package] else []
  | .turn other _ _ _ _ => if other = clientId then [.get] else []

/-- What the router hands out. -/
def dispatched : Event → List SignalPackage
  | .signal package => if package.isValid then [package] else []
  | .turn _ _ _ _ _ => []

theorem offered_traffic (clientId : String) (event : Event) :
    (traffic clientId event).flatMap Mailboxes.offered = dispatched event := by
  cases event with
  | signal package =>
    simp only [traffic, dispatched]
    split <;> simp [Mailboxes.offered]
  | turn other now later today answers =>
    simp only [traffic, dispatched]
    split <;> simp [Mailboxes.offered]

theorem all_offered (clientId : String) (events : List Event) :
    (events.flatMap (traffic clientId)).flatMap Mailboxes.offered = events.flatMap dispatched := by
  rw [List.flatMap_assoc]
  exact congrArg (events.flatMap ·) (funext (offered_traffic clientId))

/-- The requests that a worker makes in its turn. -/
def Worker.requests (worker : Worker) (now : Rat) (today : Date) : List (String × OrderRequest) :=
  match worker.attempt now with
  | none => []
  | some signal => OrderFanout.requests market client signal today

/-- A worker behind its mailbox: its circuit is closed, its queue is what waits there, and what
it has requested is what the signals that it took ask for. -/
structure Served (mail : List (Mailboxes.Event SignalPackage)) (worker : Worker)
    (made : List (String × OrderRequest)) (served : List (SignalPackage × Date)) : Prop where
  closed : worker.breaker.circuitOpen = false
  waits : worker.queue = run (Mailboxes.step workerQueueSize) [] mail
  taken : served.map Prod.fst = sent (Mailboxes.step workerQueueSize) Mailboxes.got [] mail
  asked : made = served.flatMap fun entry => requests market client entry.1 entry.2
  counted : worker.breaker.dropped =
    (sent (Mailboxes.step workerQueueSize) (Mailboxes.lost workerQueueSize) [] mail).length

variable {market} {client} {mail : List (Mailboxes.Event SignalPackage)} {worker : Worker}
variable {made : List (String × OrderRequest)} {served : List (SignalPackage × Date)}

theorem served_put (before : Served market client mail worker made served)
    (package : SignalPackage) :
    Served market client (mail ++ [.put package]) (worker.enqueue package) made served := by
  obtain ⟨closed, waits, taken, asked, counted⟩ := before
  constructor
  case closed =>
    rw [Worker.enqueue]
    split <;> exact closed
  case waits =>
    rw [run_append, ← waits, run_cons, run_nil, Worker.enqueue, Mailboxes.step]
    split <;> rfl
  case taken =>
    rw [sent_append, sent, sent, taken]
    exact (List.append_nil _).symm
  case asked => exact asked
  case counted =>
    rw [sent_append, ← waits, sent, sent, List.append_nil, List.length_append, ← counted,
      Worker.enqueue, Mailboxes.lost]
    split <;> rfl

/-- A turn takes the oldest signal. A closed circuit lets it through and stays closed. -/
theorem served_get (before : Served market client mail worker made served)
    (now later : Rat) (today : Date) (answers : String → Outcome) :
    ∃ more, Served market client (mail ++ [.get])
      (worker.turn market client now later today answers)
      (made ++ worker.requests market client now today) (served ++ more) := by
  obtain ⟨closed, waits, taken, asked, counted⟩ := before
  have passes : worker.breaker.guard now = (worker.breaker, true) := by
    rw [CircuitBreaker.Worker.guard, closed]
    rfl
  have lost : sent (Mailboxes.step workerQueueSize) (Mailboxes.lost workerQueueSize) []
      (mail ++ [.get]) =
        sent (Mailboxes.step workerQueueSize) (Mailboxes.lost workerQueueSize) [] mail := by
    rw [sent_append, sent, sent]
    exact List.append_nil _
  cases queue : worker.queue with
  | nil =>
    have idle : worker.breaker.maybeResetCircuit now = worker.breaker :=
      if_neg fun both => by simp [closed] at both
    refine ⟨[], ?_⟩
    simp only [Worker.turn, Worker.requests, Worker.attempt, queue, idle, List.append_nil]
    constructor
    case closed => exact closed
    case waits =>
      rw [run_append, ← waits, queue]
      rfl
    case taken =>
      rw [sent_append, ← waits, queue, taken]
      exact (List.append_nil _).symm
    case asked => exact asked
    case counted =>
      rw [lost]
      exact counted
  | cons signal rest =>
    refine ⟨[(signal, today)], ?_⟩
    simp only [Worker.turn, Worker.requests, Worker.attempt, queue, passes, if_true]
    constructor
    case closed => rfl
    case waits =>
      rw [run_append, ← waits, queue]
      rfl
    case taken =>
      rw [List.map_append, sent_append, ← waits, queue, taken]
      rfl
    case asked => rw [List.flatMap_append, List.flatMap_singleton, asked]
    case counted =>
      rw [lost]
      exact counted

end Alone

/-! ## The pool -/

section Together

variable (market : Market) (pool : Pool) {client : Client}

theorem find_named {clientId : String} (found : pool.find clientId = some client) :
    client ∈ pool.clients ∧ client.clientId = clientId :=
  ⟨List.mem_of_find?_eq_some found, by simpa using List.find?_some found⟩

theorem find_client (known : client ∈ pool.clients) : pool.find client.clientId = some client := by
  cases found : pool.find client.clientId with
  | none => simpa using List.find?_eq_none.mp found client known
  | some other =>
    obtain ⟨member, same⟩ := find_named pool found
    rw [List.inj_on_of_nodup_map pool.distinct member known same]

/-- The request that an output shows of a client. -/
def orderOf (clientId : String) : Output → Option (String × OrderRequest)
  | .order owner bindingId request => if owner = clientId then some (bindingId, request) else none
  | .fill _ _ => none

theorem orders_place (client : Client) (signal : SignalPackage) (today : Date)
    (answers : String → Outcome) (clientId : String) :
    (place market client signal today answers).filterMap (orderOf clientId) =
      if client.clientId = clientId then requests market client signal today else [] := by
  rw [place]
  induction requests market client signal today with
  | nil => simp
  | cons entry rest inductionHypothesis =>
    rw [List.flatMap_cons, List.filterMap_append, inductionHypothesis]
    have silent : (match answers entry.1 with
        | .filled report => [Output.fill client.clientId report]
        | _ => []).filterMap (orderOf clientId) = [] := by
      cases answers entry.1 <;> rfl
    rw [List.filterMap_cons, silent]
    by_cases mine : client.clientId = clientId <;> simp [orderOf, mine]

/-- A client is served by its own worker as if it were alone: the signals from its mailbox are
turned into orders one by one, in order, for each live broker. The mailbox alone decides what is
lost, and it counts that. -/
theorem worker_exact (known : client ∈ pool.clients) (events : List Event) :
    ∃ served, Served market client (events.flatMap (traffic client.clientId))
      (run (step market pool) start events client.clientId)
      ((sent (step market pool) (send market pool) start events).filterMap
        (orderOf client.clientId)) served := by
  induction events using List.reverseRecOn with
  | nil => exact ⟨[], rfl, rfl, rfl, rfl, rfl⟩
  | append_singleton events event inductionHypothesis =>
    obtain ⟨served, before⟩ := inductionHypothesis
    have found := find_client pool known
    have listed : client.clientId ∈ pool.clients.map Client.clientId := List.mem_map_of_mem known
    rw [run_append, run_cons, run_nil, sent_append, sent, sent, List.append_nil,
      List.filterMap_append, List.flatMap_append, List.flatMap_singleton]
    generalize run (step market pool) start events = workers at before ⊢
    cases event with
    | signal package =>
      have silent : (send market pool workers (.signal package)).filterMap
          (orderOf client.clientId) = [] := rfl
      rw [silent, List.append_nil]
      refine ⟨served, ?_⟩
      simp only [step, traffic]
      split
      · simp only [if_pos listed]
        exact served_put before package
      · rw [List.append_nil]
        exact before
    | turn other now later today answers =>
      by_cases mine : other = client.clientId
      · subst mine
        obtain ⟨more, after⟩ := served_get before now later today answers
        refine ⟨served ++ more, ?_⟩
        simp only [step, send, found, traffic, if_true, Function.update_self]
        have made : (match (workers client.clientId).attempt now with
            | none => []
            | some signal => place market client signal today answers).filterMap
              (orderOf client.clientId) =
            (workers client.clientId).requests market client now today := by
          rw [Worker.requests]
          cases (workers client.clientId).attempt now with
          | none => rfl
          | some signal => rw [orders_place, if_pos rfl]
        rw [made]
        exact after
      · have mail : traffic client.clientId (.turn other now later today answers) = [] :=
          if_neg mine
        refine ⟨served, ?_⟩
        simp only [mail, List.append_nil, step, send]
        cases found : pool.find other with
        | none =>
          rw [List.filterMap_nil, List.append_nil]
          exact before
        | some owner =>
          have silent : (match (workers other).attempt now with
              | none => []
              | some signal => place market owner signal today answers).filterMap
                (orderOf client.clientId) = [] := by
            cases (workers other).attempt now with
            | none => rfl
            | some signal =>
              rw [orders_place, if_neg]
              rw [(find_named pool found).2]
              exact mine
          simp only [silent, List.append_nil, Function.update_of_ne (Ne.symm mine)]
          exact before

/-- The letters of the strategies. -/
theorem letters (source : StrategyID) : strategyLetter source.value ∈ ["T", "S", "I"] := by
  cases source <;> decide +kernel

/-- What `requestFor` asks of a live broker. -/
theorem requestFor_sized {signal : SignalPackage} {today : Date} {binding : Binding}
    {bindingId : String} {request : OrderRequest}
    (asked : requestFor market client signal today binding = some (bindingId, request)) :
    binding.bindingId = bindingId ∧ binding.live = true ∧ request.side = .buy ∧
      request.orderType = .market ∧ ∃ lots, 1 ≤ lots ∧ lots ≤ 10 ∧
        0 < lotSize market signal.underlying ∧
        request.qty = lots * lotSize market signal.underlying := by
  rw [requestFor] at asked
  split at asked
  case isFalse => cases asked
  case isTrue live =>
    split at asked
    · cases asked
    · simp only [Option.ite_none_left_eq_some, not_le, Option.some.injEq, Prod.mk.injEq] at asked
      obtain ⟨positive, rfl, rfl⟩ := asked
      refine ⟨rfl, live, rfl, rfl, _, Int.add_one_le_iff.mpr positive, ?_, ?_, rfl⟩
      · rw [computeLots]
        split
        · decide
        · exact max_le (by decide) (min_le_right _ _)
      · by_contra! small
        have cast : (50 : Rat) * lotSize market signal.underlying ≤ 0 := by
          have : (lotSize market signal.underlying : Rat) ≤ 0 := by exact_mod_cast small
          linarith
        rw [computeLots, if_pos cast] at positive
        exact absurd positive (lt_irrefl 0)
/-- An output comes from a turn of the worker of some client. -/
theorem order_owner (events : List Event) {clientId bindingId : String} {request : OrderRequest}
    (placed : .order clientId bindingId request ∈
      sent (step market pool) (send market pool) start events) :
    ∃ owner ∈ pool.clients, owner.clientId = clientId := by
  obtain ⟨before, event, after, _, here⟩ := (mem_sent (step market pool) _ start events).mp placed
  cases event with
  | signal package => simp [send] at here
  | turn other now later today answers =>
    simp only [send] at here
    split at here
    · simp at here
    · rename_i owner found
      split at here
      · simp at here
      · obtain ⟨entry, member, shown⟩ := List.mem_flatMap.mp here
        have named : clientId = owner.clientId := by
          rw [List.mem_cons] at shown
          rcases shown with same | filled
          · exact (Output.order.inj same).1
          · split at filled <;> simp at filled
        exact ⟨owner, (find_named pool found).1, named.symm⟩

/-- Every order comes from a signal that the router handed out. It is a market buy of one to
ten lots, at a live broker of a client whose strategies name the letter of the signal. -/
theorem order_sized (events : List Event) {clientId bindingId : String} {request : OrderRequest}
    (placed : .order clientId bindingId request ∈
      sent (step market pool) (send market pool) start events) :
    ∃ owner ∈ pool.clients, owner.clientId = clientId ∧
      (∃ binding ∈ owner.brokers, binding.bindingId = bindingId ∧ binding.live = true) ∧
      request.side = .buy ∧ request.orderType = .market ∧
      ∃ signal ∈ events.flatMap dispatched, enabled owner signal = true ∧
        ∃ lots, 1 ≤ lots ∧ lots ≤ 10 ∧ 0 < lotSize market signal.underlying ∧
          request.qty = lots * lotSize market signal.underlying := by
  obtain ⟨owner, known, rfl⟩ := order_owner market pool events placed
  obtain ⟨served, _, _, taken, asked, _⟩ := worker_exact market pool known events
  have made : (bindingId, request) ∈ (sent (step market pool) (send market pool) start
      events).filterMap (orderOf owner.clientId) :=
    List.mem_filterMap.mpr ⟨_, placed, if_pos rfl⟩
  rw [asked] at made
  obtain ⟨entry, member, requested⟩ := List.mem_flatMap.mp made
  have handed : entry.1 ∈ events.flatMap dispatched := by
    have out : entry.1 ∈ served.map Prod.fst := List.mem_map_of_mem member
    have sublist := @Mailboxes.kept_sublist _ workerQueueSize []
      (events.flatMap (traffic owner.clientId))
    rw [taken] at out
    rw [List.nil_append, all_offered] at sublist
    exact sublist.subset (List.mem_append_left _ out)
  rw [requests] at requested
  split at requested
  case isFalse => simp at requested
  case isTrue listed =>
    obtain ⟨binding, owned, sized⟩ := List.mem_filterMap.mp requested
    obtain ⟨named, live, side, kind, lots⟩ := requestFor_sized market sized
    exact ⟨owner, known, rfl, ⟨binding, owned, named, live⟩, side, kind, entry.1, handed, listed,
      lots⟩

theorem expiry_month : 1 ≤ 6 ∧ 6 ≤ 12 := by decide

theorem expiry_day : 1 ≤ 30 ∧ 30 ≤ daysInMonth 2026 6 := by decide

/-- One listed expiry. -/
def june : Date := ⟨2026, 6, 30, expiry_month, expiry_day⟩

def listing : Market where
  registry := ⟨fun _ => [june], fun _ => List.pairwise_singleton _ _, fun _ _ _ _ => ""⟩
  isLoaded := fun _ => true
  lotSizes := [("NIFTY", 65)]

/-- A client with the default strategies, and one that follows the straddles. -/
def cautious : Client :=
  { clientId := "C001", brokers := [⟨"main", "zerodha", true⟩] }

def follower : Client :=
  { clientId := "C002", enabledStrategies := ["S"], brokers := [⟨"main", "zerodha", true⟩] }

theorem two_clients : ([cautious, follower].map Client.clientId).Nodup := by decide

def twoClients : Pool := ⟨[cautious, follower], two_clients⟩

def straddleSignal : SignalPackage :=
  ⟨.sellStraddle, "NIFTY", .ce, 24500, 24500, 24400, 24800, 3 / 4, (9, 45, 0)⟩

/-- One signal, and a turn of each worker. -/
def oneSignal : List Event :=
  [.signal straddleSignal, .turn "C001" 0 0 june (fun _ => .rejected),
    .turn "C002" 0 0 june (fun _ => .rejected)]

theorem cautious_unnamed : ∀ letter ∈ ["T", "S", "I"],
    letter ∉ cautious.enabledStrategies.map String.toUpper := by decide +kernel

/-- The follower places one order, which its broker rejects. -/
theorem order_sized_follower : ∃ clientId bindingId request,
    .order clientId bindingId request ∈
        sent (step listing twoClients) (send listing twoClients) start oneSignal ∧
      request.side = .buy := by
  have placed : (sent (step listing twoClients) (send listing twoClients) start oneSignal).any
      (fun out => match out with | .order .. => true | .fill .. => false) = true := by
    decide +kernel
  obtain ⟨out, member, kind⟩ := List.any_eq_true.mp placed
  cases out with
  | order clientId bindingId request =>
    obtain ⟨_, _, _, _, side, _⟩ := order_sized listing twoClients oneSignal member
    exact ⟨clientId, bindingId, request, member, side⟩
  | fill => cases kind

end Together

end OptionChain.OrderFanout
