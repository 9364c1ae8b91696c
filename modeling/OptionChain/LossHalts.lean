import OptionChain.Broker
import OptionChain.ClientProfiles
import OptionChain.Runs

/-!
# Halts by the client manager

The client manager looks at a client after each of its completed fills and halts it when
it is not tradeable. That test has seven conditions, one of them the daily loss limit,
and the halt stays until the next daily reset.
-/

namespace OptionChain.LossHalts

open Broker ClientProfiles Runs

structure BrokerBinding where
  bindingId : String
  enabled : Bool := true
deriving DecidableEq

/-- A profile with all that decides whether the client may trade. The trade count is
limited by its risk profile. -/
structure Client extends ClientProfile where
  maxDailyTrades : Int := 5
  isAdminApproved : Bool := false
  isClientBotActive : Bool := false
  brokerBindings : List BrokerBinding := []
deriving DecidableEq

namespace Client

def maxDailyLossInr (client : Client) : Rat :=
  client.risk.capital * client.risk.maxDailyLossPct / 100

def enabledBrokers (client : Client) : List BrokerBinding :=
  client.brokerBindings.filter (·.enabled)

/-- The daily result is at the limit or beyond it. -/
def lossReached (client : Client) : Bool := decide (client.dailyPnl ≤ -client.maxDailyLossInr)

def isTradeable (client : Client) : Bool :=
  if !client.active || client.halted then false
  else if !client.isAdminApproved then false
  else if !client.isClientBotActive then false
  else if client.maxDailyTrades ≤ client.dailyTrades then false
  else if client.lossReached then false
  else decide (0 < client.enabledBrokers.length)

def recordTrade (client : Client) (pnl : Rat) : Client :=
  { client with toClientProfile := client.toClientProfile.recordTrade pnl }

def halt (client : Client) : Client :=
  { client with toClientProfile := client.toClientProfile.halt }

def resetDaily (client : Client) : Client :=
  { client with dailyPnl := 0, dailyTrades := 0, halted := false }

end Client

/-- The clients of the registry, one for each id. -/
abbrev Registry := List Client

namespace Registry

def get (registry : Registry) (clientId : String) : Option Client :=
  registry.find? (·.clientId = clientId)

/-- A change of the profile that is stored under an id. -/
def modify (registry : Registry) (clientId : String) (change : Client → Client) : Registry :=
  registry.map (fun client => if client.clientId = clientId then change client else client)

def resetAllDaily (registry : Registry) : Registry := registry.map Client.resetDaily

theorem get_some {registry : Registry} {clientId : String} {client : Client}
    (found : registry.get clientId = some client) :
    client ∈ registry ∧ client.clientId = clientId := by
  refine ⟨List.mem_of_find?_eq_some found, ?_⟩
  simpa using List.find?_some found

end Registry

/-- What the bus carries as a fill: fills of the bridges have no status. -/
inductive FillEvent where
  | bridge
  | order (fill : FillReport)
deriving DecidableEq

/-- The notice that a client was halted. -/
structure ClientHalted where
  clientId : String
  reason : String
deriving DecidableEq

/-- `_emit_halt`. -/
def emitHalt (registry : Registry) (client : Client) (reason : String) :
    Registry × List ClientHalted :=
  (registry.modify client.clientId Client.halt, [⟨client.clientId, reason⟩])

/-- `_process_fill`, with the notices it publishes. -/
def processFill (registry : Registry) : FillEvent → Registry × List ClientHalted
  | .bridge => (registry, [])
  | .order fill =>
    if fill.status ≠ .complete then (registry, [])
    else match registry.get fill.clientId with
      | none => (registry, [])
      | some client =>
        if client.isTradeable then (registry, [])
        else emitHalt registry client "Drawdown limit breached after fill."

/-- The flags of a profile that the administrator and the client change. -/
inductive Flag where
  | active (on : Bool)
  | adminApproved (on : Bool)
  | botActive (on : Bool)
  | broker (bindingId : String) (enabled : Bool)
deriving DecidableEq

def Flag.set : Flag → Client → Client
  | .active on, client => { client with active := on }
  | .adminApproved on, client => { client with isAdminApproved := on }
  | .botActive on, client => { client with isClientBotActive := on }
  | .broker bindingId enabled, client =>
    { client with
      brokerBindings := client.brokerBindings.map (fun binding =>
        if binding.bindingId = bindingId then { binding with enabled := enabled } else binding) }

inductive Event where
  | fill (event : FillEvent)
  | recordTrade (clientId : String) (pnl : Rat)
  | change (clientId : String) (flag : Flag)
  | dailyReset
deriving DecidableEq

/-! ## Runs -/

/-- The registry, and beside it the clients that a completed fill has found at their
loss limit since the last reset. -/
structure State where
  registry : Registry
  lost : List String := []
deriving DecidableEq

/-- The client that the manager looks at after a fill. -/
def examined (registry : Registry) : FillEvent → Option Client
  | .bridge => none
  | .order fill => if fill.status = .complete then registry.get fill.clientId else none

/-- The clients at their limit after one more fill. -/
def lostAfter (state : State) (event : FillEvent) : List String :=
  match examined state.registry event with
  | none => state.lost
  | some client => if client.lossReached then client.clientId :: state.lost else state.lost

def step (state : State) : Event → State
  | .fill event => ⟨(processFill state.registry event).1, lostAfter state event⟩
  | .recordTrade clientId pnl =>
    { state with registry := state.registry.modify clientId (·.recordTrade pnl) }
  | .change clientId flag => { state with registry := state.registry.modify clientId flag.set }
  | .dailyReset => ⟨state.registry.resetAllDaily, []⟩

/-- The notices of one event. -/
def published (state : State) : Event → List ClientHalted
  | .fill event => (processFill state.registry event).2
  | _ => []

/-- The conditions of a client that have nothing to do with its result. -/
structure Enabled (client : Client) : Prop where
  active : client.active = true
  approved : client.isAdminApproved = true
  bot : client.isClientBotActive = true
  trades : (client.dailyTrades : Int) < client.maxDailyTrades
  broker : client.enabledBrokers ≠ []

instance (client : Client) : Decidable (Enabled client) :=
  decidable_of_iff (client.active = true ∧ client.isAdminApproved = true ∧
      client.isClientBotActive = true ∧ (client.dailyTrades : Int) < client.maxDailyTrades ∧
      client.enabledBrokers ≠ [])
    ⟨fun h => ⟨h.1, h.2.1, h.2.2.1, h.2.2.2.1, h.2.2.2.2⟩,
      fun h => ⟨h.active, h.approved, h.bot, h.trades, h.broker⟩⟩

/-- Who is halted has reached the loss limit. -/
def LossOnly (state : State) (event : Event) : Prop :=
  ∀ notice ∈ published state event,
    ∀ client ∈ state.registry.get notice.clientId, client.lossReached = true

/-- A client that no fill has found at its limit trades when nothing else is in the way. -/
def Recovers (state : State) : Prop :=
  ∀ client ∈ state.registry, client.clientId ∉ state.lost →
    Enabled client → client.lossReached = false → client.isTradeable = true

def Designed (state : State) (event : Event) : Prop :=
  LossOnly state event ∧ Recovers (step state event)

/-- A completed fill finds its client at the limit, or enabled and at no earlier fill
at the limit. -/
def Met (state : State) : Event → Prop
  | .fill event => ∀ client ∈ examined state.registry event,
      client.lossReached = true ∨ (Enabled client ∧ client.clientId ∉ state.lost)
  | _ => True

instance (state : State) (event : Event) : Decidable (Designed state event) :=
  inferInstanceAs (Decidable ((∀ _ ∈ _, ∀ _ ∈ _, _) ∧ ∀ _ ∈ _, _))

instance (state : State) : DecidablePred (Met state)
  | .fill event => inferInstanceAs (Decidable (∀ _ ∈ examined state.registry event, _))
  | .recordTrade _ _ => .isTrue trivial
  | .change _ _ => .isTrue trivial
  | .dailyReset => .isTrue trivial

/-! ## What one step does -/

theorem isTradeable_iff (client : Client) :
    client.isTradeable = true ↔
      client.halted = false ∧ Enabled client ∧ client.lossReached = false := by
  have brokers : client.enabledBrokers ≠ [] ↔ 0 < client.enabledBrokers.length :=
    List.length_pos_iff.symm
  unfold Client.isTradeable
  constructor
  · intro tradeable
    split_ifs at tradeable with idle approved bot trades loss
    refine ⟨by grind, ⟨by grind, by simpa using approved, by simpa using bot, by omega, ?_⟩,
      by simpa using loss⟩
    exact brokers.mpr (by simpa using tradeable)
  · rintro ⟨running, enabled, profit⟩
    rw [if_neg (by simp [enabled.active, running]), if_neg (by simp [enabled.approved]),
      if_neg (by simp [enabled.bot]), if_neg (by have := enabled.trades; omega),
      if_neg (by simp [profit])]
    simpa using brokers.mp enabled.broker

/-- Halted are exactly the clients that a fill has found at their limit. -/
def Attributed (state : State) : Prop :=
  ∀ client ∈ state.registry, client.halted = true ↔ client.clientId ∈ state.lost

theorem recovers_of_attributed {state : State} (attributed : Attributed state) :
    Recovers state := by
  intro client listed unlost enabled profit
  have running : client.halted = false := by
    simpa using mt (attributed client listed).mp unlost
  exact (isTradeable_iff client).mpr ⟨running, enabled, profit⟩

/-- A change that leaves id and halt of every client leaves the attribution. -/
theorem attributed_modify {state : State} (attributed : Attributed state) (clientId : String)
    {change : Client → Client} (same : ∀ client, (change client).clientId = client.clientId ∧
      (change client).halted = client.halted) :
    Attributed { state with registry := state.registry.modify clientId change } := by
  intro client listed
  obtain ⟨before, known, rfl⟩ := List.mem_map.mp listed
  have held := attributed before known
  split
  · rw [(same before).1, (same before).2]
    exact held
  · exact held

theorem Flag.set_same (flag : Flag) (client : Client) :
    (flag.set client).clientId = client.clientId ∧ (flag.set client).halted = client.halted := by
  cases flag <;> exact ⟨rfl, rfl⟩

/-- After a reset nobody is halted. -/
theorem attributed_reset (registry : Registry) : Attributed ⟨registry.resetAllDaily, []⟩ := by
  intro client listed
  obtain ⟨before, known, rfl⟩ := List.mem_map.mp listed
  simp [Client.resetDaily]

/-- A fill examines nobody, or one registered client, which is halted when it is not
tradeable. -/
theorem processFill_cases (registry : Registry) (event : FillEvent) :
    (examined registry event = none ∧ processFill registry event = (registry, [])) ∨
    ∃ client, examined registry event = some client ∧
      registry.get client.clientId = some client ∧
      processFill registry event =
        if client.isTradeable then (registry, [])
        else emitHalt registry client "Drawdown limit breached after fill." := by
  cases event with
  | bridge => exact Or.inl ⟨rfl, rfl⟩
  | order fill =>
    simp only [processFill, examined]
    by_cases complete : fill.status = .complete
    · rw [if_pos complete, if_neg (not_not.mpr complete)]
      cases found : registry.get fill.clientId with
      | none => exact Or.inl ⟨rfl, rfl⟩
      | some client =>
        refine Or.inr ⟨client, rfl, ?_, rfl⟩
        rw [(Registry.get_some found).2]
        exact found
    · rw [if_neg complete, if_pos complete]
      exact Or.inl ⟨rfl, rfl⟩

/-- Under the attribution the manager halts for losses only where the condition is met. -/
theorem lossOnly_fill_iff {state : State} (attributed : Attributed state) (event : FillEvent) :
    LossOnly state (.fill event) ↔ Met state (.fill event) := by
  simp only [LossOnly, Met, published]
  obtain ⟨nobody, silent⟩ | ⟨client, looked, found, result⟩ :=
    processFill_cases state.registry event
  · simp [nobody, silent]
  · have tradeable := isTradeable_iff client
    have halted := attributed client (Registry.get_some found).1
    rw [result, looked]
    by_cases trades : client.isTradeable = true
    · have enabled := tradeable.mp trades
      have unlost : client.clientId ∉ state.lost := mt halted.mpr (by simp [enabled.1])
      simp [trades, enabled.2.1, unlost]
    · have stopped : ¬ (client.halted = false ∧ Enabled client ∧ client.lossReached = false) :=
        mt tradeable.mpr trades
      simp only [trades, Bool.false_eq_true, if_false, emitHalt, List.mem_singleton,
        forall_eq, found, Option.mem_some_iff, forall_eq']
      constructor
      · exact Or.inl
      · rintro (lost | ⟨enabled, unlost⟩)
        · exact lost
        · have running : client.halted = false := by simpa using mt halted.mp unlost
          by_contra profit
          exact stopped ⟨running, enabled, by simpa using profit⟩

/-- A fill that halts for losses only keeps the attribution. -/
theorem attributed_fill {state : State} {event : FillEvent} (attributed : Attributed state)
    (losses : LossOnly state (.fill event)) : Attributed (step state (.fill event)) := by
  simp only [LossOnly, published] at losses
  simp only [step, lostAfter]
  obtain ⟨nobody, silent⟩ | ⟨client, looked, found, result⟩ :=
    processFill_cases state.registry event
  · rw [nobody, silent]
    exact attributed
  · rw [result] at losses ⊢
    rw [looked]
    by_cases trades : client.isTradeable = true
    · have profit : client.lossReached = false := ((isTradeable_iff client).mp trades).2.2
      simpa [trades, profit] using attributed
    · have lost : client.lossReached = true := by
        simpa [trades, emitHalt, found] using losses
      simp only [trades, lost, Bool.false_eq_true, if_false, if_true, emitHalt]
      intro after listed
      obtain ⟨before, known, rfl⟩ := List.mem_map.mp listed
      have held := attributed before known
      by_cases same : before.clientId = client.clientId
      · simp [same, Client.halt, ClientProfile.halt]
      · simpa [same] using held

theorem attributed_step {state : State} {event : Event} (attributed : Attributed state)
    (losses : LossOnly state event) : Attributed (step state event) := by
  cases event with
  | fill event => exact attributed_fill attributed losses
  | recordTrade clientId pnl =>
    exact attributed_modify attributed clientId (fun _ => ⟨rfl, rfl⟩)
  | change clientId flag => exact attributed_modify attributed clientId flag.set_same
  | dailyReset => exact attributed_reset state.registry

theorem lossOnly_iff {state : State} (attributed : Attributed state) (event : Event) :
    LossOnly state event ↔ Met state event := by
  cases event with
  | fill event => exact lossOnly_fill_iff attributed event
  | recordTrade clientId pnl => simp [LossOnly, Met, published]
  | change clientId flag => simp [LossOnly, Met, published]
  | dailyReset => simp [LossOnly, Met, published]

/-! ## Whole runs -/

/-- Clients are halted for losses only, and recover when nothing else is in the way,
exactly in the runs whose completed fills find their client at its loss limit, or enabled
and never before at the limit since the last reset. -/
theorem halts_for_losses_iff (registry : Registry)
    (fresh : ∀ client ∈ registry, client.halted = false) (events : List Event) :
    Along step Designed ⟨registry, []⟩ events ↔ Along step Met ⟨registry, []⟩ events := by
  have start : Attributed ⟨registry, []⟩ := by
    intro client listed
    simp [fresh client listed]
  have preserved : ∀ state event, Attributed state → Designed state event →
      Attributed (step state event) := fun _ _ attributed designed =>
    attributed_step attributed designed.1
  have agree : ∀ state event, Attributed state → (Designed state event ↔ Met state event) := by
    intro state event attributed
    constructor
    · intro designed
      exact (lossOnly_iff attributed event).mp designed.1
    · intro met
      have losses := (lossOnly_iff attributed event).mpr met
      exact ⟨losses, recovers_of_attributed (attributed_step attributed losses)⟩
  exact along_agree step preserved agree _ events start

/-- An approved client with its bot on and one broker. -/
def tradingClient : Client :=
  { clientId := "C001"
    isAdminApproved := true
    isClientBotActive := true
    brokerBindings := [⟨"B1", true⟩] }

/-- A completed fill of that client. -/
def completed : Event :=
  .fill (.order
    { qty := 75
      avgPrice := 100
      status := .complete
      orderId := "1"
      brokerSymbol := "NIFTY"
      side := .buy
      clientId := "C001" })

/-- A loss beyond 3% of the capital halts the client, and the next day it trades. -/
theorem large_loss_halts :
    Along step Designed ⟨[tradingClient], []⟩
      [completed, .recordTrade "C001" (-16000), completed, .dailyReset, completed] :=
  (halts_for_losses_iff [tradingClient] (by decide +kernel) _).mpr (by decide +kernel)

/-- A client that switches its bot off before a fill is halted without any loss, and
switching the bot on again does not help. -/
theorem switched_off_is_halted :
    ¬ Along step Designed ⟨[tradingClient], []⟩
      [.change "C001" (.botActive false), completed, .change "C001" (.botActive true)] := by
  decide +kernel

end OptionChain.LossHalts
