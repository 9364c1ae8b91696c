import OptionChain.ClientProfiles
import OptionChain.StraddleEvents

/-!
# Routing an order to its binding

`_handle` walks the active clients and the bindings of each in the database, and
executes the order on every binding that passes the gates. An event that names a
client and a binding is meant for that binding alone.

It reaches nobody else, and never twice. An ENTRY needs a running deployment. An EXIT
is let through by every gate inside the loops, but the clients were filtered before
them: it is executed exactly when the client of its binding is active.
-/

namespace OptionChain.StraddleRouting

open ClientProfiles StraddleEvents

/-- The columns of a binding that the bridge reads. -/
structure BindingRow where
  clientId : String
  bindingId : String
  terminalConnected : Bool
  engineActive : Bool
  tradingMode : Option String
deriving DecidableEq

structure DeploymentRow where
  clientId : String
  bindingId : String
  strategyName : String
  underlying : String
  isActive : Bool := true
  isRunning : Option Int
deriving DecidableEq

/-- The rows in the order of their creation, and whether the two queries succeed. -/
structure ClientDb where
  bindings : List BindingRow
  deployments : List DeploymentRow
  bindingsRead : Bool := true
  deploymentsRead : Bool := true

namespace ClientDb

variable (db : ClientDb) (clientId : String)

/-- A query that keeps failing answers with no rows. -/
def getBindingsSafeSync : List BindingRow :=
  if db.bindingsRead = true then db.bindings.filter (·.clientId = clientId) else []

def getDeploymentsSync : List DeploymentRow :=
  if db.deploymentsRead = true then
    db.deployments.filter (fun row => decide (row.clientId = clientId) && row.isActive)
  else []

end ClientDb

inductive Fill (β : Type) where
  | paper (broker : Option β)
  | live (broker : β)
deriving DecidableEq

structure Execution (β : Type) where
  clientId : String
  bindingId : String
  fill : Fill β
deriving DecidableEq

section Handle

variable {β : Type} (db : ClientDb) (brokers : String → String → Option β)
  (ev : StraddleOrderEvent)

/-- `_target`. -/
def target : Option (String × String) :=
  if ev.clientId ≠ "" ∧ ev.bindingId ≠ "" then some (ev.clientId, ev.bindingId) else none

/-- `_matching`. -/
def matching (clientId bindingId : String) : List DeploymentRow :=
  (db.getDeploymentsSync clientId).filter (fun row =>
    decide (row.bindingId = bindingId) && decide (row.strategyName = "sell_straddle") &&
      decide (row.underlying.toUpper = ev.underlying.toUpper))

/-- The two gates of an ENTRY. An event without a target honours the engine toggle. -/
def entryGate (clientId : String) (row : BindingRow) : Bool :=
  let rows := matching db ev clientId row.bindingId
  if rows = [] then false
  else if target ev ≠ none then rows.any (fun row => decide (row.isRunning = some 1))
  else row.engineActive

/-- No broker and no live mode mean a local simulation. -/
def fillMode (clientId : String) (row : BindingRow) : Fill β :=
  let broker := brokers clientId row.bindingId
  let mode := if row.tradingMode.getD "" = "" then "paper" else row.tradingMode.getD ""
  match broker with
  | none => .paper none
  | some connected => if mode = "paper" then .paper broker else .live connected

/-- The body of the inner loop. -/
def routeBinding (clientId : String) (row : BindingRow) : Option (Execution β) :=
  if target ev ≠ none ∧ row.bindingId ≠ ev.bindingId then none
  else if row.terminalConnected = false then none
  else if ev.action ≠ .exit ∧ entryGate db ev clientId row = false then none
  else some ⟨clientId, row.bindingId, fillMode brokers clientId row⟩

/-- The body of the outer loop. -/
def routeClient (client : ClientProfile) : List (Execution β) :=
  if target ev ≠ none ∧ client.clientId ≠ ev.clientId then []
  else (db.getBindingsSafeSync client.clientId).filterMap
    (routeBinding db brokers ev client.clientId)

/-- `_handle`. -/
def handle (registry : ClientRegistry) : List (Execution β) :=
  registry.allActive.flatMap (routeClient db brokers ev)

end Handle

/-- The event names its client and its binding. -/
def Stamped (ev : StraddleOrderEvent) : Prop := ev.clientId ≠ "" ∧ ev.bindingId ≠ ""

/-- The stamped binding exists, and its terminal is connected. -/
def Connected (db : ClientDb) (ev : StraddleOrderEvent) : Prop :=
  ∃ row ∈ db.bindings, row.clientId = ev.clientId ∧ row.bindingId = ev.bindingId ∧
    row.terminalConnected = true

/-- The stamped binding runs the strategy on the underlying of the event. -/
def Running (db : ClientDb) (ev : StraddleOrderEvent) : Prop :=
  ∃ row ∈ db.deployments, row.clientId = ev.clientId ∧ row.bindingId = ev.bindingId ∧
    row.strategyName = "sell_straddle" ∧ row.underlying.toUpper = ev.underlying.toUpper ∧
    row.isActive = true ∧ row.isRunning = some 1

/-- The client is active, and its bindings can be read. -/
def Reachable (registry : ClientRegistry) (db : ClientDb) (ev : StraddleOrderEvent) : Prop :=
  db.bindingsRead = true ∧ ∃ client ∈ registry, client.active = true ∧ client.clientId = ev.clientId

/-- What targeted routing is for, said of the executions of one event. -/
structure Targeted {β : Type} (db : ClientDb) (ev : StraddleOrderEvent)
    (executions : List (Execution β)) : Prop where
  once : executions.length ≤ 1
  stamped : ∀ execution ∈ executions,
    execution.clientId = ev.clientId ∧ execution.bindingId = ev.bindingId
  entry : ev.action = .entry → executions ≠ [] → Connected db ev ∧ Running db ev
  exit : ev.action = .exit → Connected db ev → executions ≠ []

/-- Client ids are unique, and so are the binding ids of each client. -/
structure Keyed (registry : ClientRegistry) (db : ClientDb) : Prop where
  clients : (registry.map (·.clientId)).Nodup
  bindings : (db.bindings.map (fun row => (row.clientId, row.bindingId))).Nodup

section Routes

variable {β : Type} {registry : ClientRegistry} {db : ClientDb}
  {brokers : String → String → Option β} {ev : StraddleOrderEvent}

theorem mem_getBindings {clientId : String} {row : BindingRow} :
    row ∈ db.getBindingsSafeSync clientId ↔
      db.bindingsRead = true ∧ row ∈ db.bindings ∧ row.clientId = clientId := by
  unfold ClientDb.getBindingsSafeSync
  split <;> simp_all

/-- The rows behind a matching deployment. -/
theorem mem_matching {clientId bindingId : String} {row : DeploymentRow}
    (found : row ∈ matching db ev clientId bindingId) :
    row ∈ db.deployments ∧ row.clientId = clientId ∧ row.bindingId = bindingId ∧
      row.strategyName = "sell_straddle" ∧ row.underlying.toUpper = ev.underlying.toUpper ∧
      row.isActive = true := by
  unfold matching ClientDb.getDeploymentsSync at found
  split at found
  · simp only [List.mem_filter, Bool.and_eq_true, decide_eq_true_eq] at found
    obtain ⟨⟨stored, sameClient, active⟩, ⟨sameBinding, strategy⟩, underlying⟩ := found
    exact ⟨stored, sameClient, sameBinding, strategy, underlying, active⟩
  · simp at found

theorem target_stamped (stamp : Stamped ev) : target ev = some (ev.clientId, ev.bindingId) :=
  if_pos stamp

theorem routeBinding_spec {clientId : String} {row : BindingRow} {execution : Execution β} :
    routeBinding db brokers ev clientId row = some execution ↔
      (target ev ≠ none → row.bindingId = ev.bindingId) ∧ row.terminalConnected = true ∧
      (ev.action ≠ .exit → entryGate db ev clientId row = true) ∧
      execution = ⟨clientId, row.bindingId, fillMode brokers clientId row⟩ := by
  unfold routeBinding
  split
  · rename_i other
    simp [other]
  · rename_i same
    split
    · rename_i apart
      simp [apart]
    · rename_i connected
      split
      · rename_i closed
        simp [closed]
      · rename_i admitted
        simp only [Option.some.injEq]
        constructor
        · intro executed
          refine ⟨?_, ?_, ?_, executed.symm⟩
          · intro targeted
            by_contra different
            exact same ⟨targeted, different⟩
          · simpa using connected
          · intro notExit
            by_contra gate
            exact admitted ⟨notExit, by simpa using gate⟩
        · rintro ⟨-, -, -, executed⟩
          exact executed.symm

/-- Every execution comes from one active client and one row of its bindings. -/
theorem mem_handle {execution : Execution β} :
    execution ∈ handle db brokers ev registry ↔
      ∃ client ∈ registry, client.active = true ∧
        (target ev ≠ none → client.clientId = ev.clientId) ∧
        ∃ row ∈ db.getBindingsSafeSync client.clientId,
          routeBinding db brokers ev client.clientId row = some execution := by
  simp only [handle, ClientRegistry.allActive, List.mem_flatMap, List.mem_filter, routeClient]
  constructor
  · rintro ⟨client, ⟨registered, active⟩, executed⟩
    split at executed
    · simp at executed
    · rename_i same
      obtain ⟨row, stored, routed⟩ := List.mem_filterMap.mp executed
      refine ⟨client, registered, active, ?_, row, stored, routed⟩
      intro targeted
      by_contra different
      exact same ⟨targeted, different⟩
  · rintro ⟨client, registered, active, same, row, stored, routed⟩
    refine ⟨client, ⟨registered, active⟩, ?_⟩
    rw [if_neg (fun skipped => skipped.2 (same skipped.1))]
    exact List.mem_filterMap.mpr ⟨row, stored, routed⟩

/-- Two executions on different bindings. -/
def Apart (left right : Execution β) : Prop :=
  (left.clientId, left.bindingId) ≠ (right.clientId, right.bindingId)

/-- The rows of one client differ in their binding ids. -/
theorem bindings_apart (keyed : Keyed registry db) (clientId : String) :
    (db.getBindingsSafeSync clientId).Pairwise
      (fun row other => row.bindingId ≠ other.bindingId) := by
  have stored : db.bindings.Pairwise (fun row other =>
      (row.clientId, row.bindingId) ≠ (other.clientId, other.bindingId)) :=
    List.pairwise_map.mp keyed.bindings
  unfold ClientDb.getBindingsSafeSync
  split
  · apply (stored.filter _).imp_of_mem
    intro row other rowKept otherKept differ same
    have rowClient := of_decide_eq_true (List.mem_filter.mp rowKept).2
    have otherClient := of_decide_eq_true (List.mem_filter.mp otherKept).2
    exact differ (by rw [rowClient, otherClient, same])
  · exact List.Pairwise.nil

theorem routeClient_apart (keyed : Keyed registry db) (client : ClientProfile) :
    (routeClient db brokers ev client).Pairwise Apart := by
  unfold routeClient
  split
  · exact List.Pairwise.nil
  · apply (bindings_apart keyed client.clientId).filterMap
    intro row other differ execution routed further reached same
    obtain ⟨-, -, -, rfl⟩ := routeBinding_spec.mp routed
    obtain ⟨-, -, -, rfl⟩ := routeBinding_spec.mp reached
    exact differ (congrArg Prod.snd same)

theorem routeClient_clientId {client : ClientProfile} {execution : Execution β}
    (executed : execution ∈ routeClient db brokers ev client) :
    execution.clientId = client.clientId := by
  unfold routeClient at executed
  split at executed
  · simp at executed
  · obtain ⟨row, -, routed⟩ := List.mem_filterMap.mp executed
    obtain ⟨-, -, -, rfl⟩ := routeBinding_spec.mp routed
    rfl

/-- No binding is reached twice, by any event. The clients differ between two rounds
of the outer loop, the binding ids between two rounds of the inner one. -/
theorem handle_apart (keyed : Keyed registry db) :
    (handle db brokers ev registry).Pairwise Apart := by
  apply List.pairwise_flatMap.mpr
  refine ⟨fun client _ => routeClient_apart keyed client, ?_⟩
  have clients : registry.Pairwise (fun client other => client.clientId ≠ other.clientId) :=
    List.pairwise_map.mp keyed.clients
  apply (clients.filter _).imp
  intro client other differ execution executed further reached same
  rw [← routeClient_clientId executed, ← routeClient_clientId reached] at differ
  exact differ (congrArg Prod.fst same)

/-- The executions of a stamped event are on its binding, which passed the gates. -/
theorem handle_stamped (stamp : Stamped ev) {execution : Execution β}
    (executed : execution ∈ handle db brokers ev registry) :
    execution.clientId = ev.clientId ∧ execution.bindingId = ev.bindingId ∧ Connected db ev ∧
      (ev.action = .entry → Running db ev) := by
  have targeted : target ev ≠ none := by simp [target_stamped stamp]
  obtain ⟨client, -, -, sameClient, row, stored, routed⟩ := mem_handle.mp executed
  obtain ⟨sameBinding, connected, gate, rfl⟩ := routeBinding_spec.mp routed
  obtain ⟨-, present, owner⟩ := mem_getBindings.mp stored
  have clientId : client.clientId = ev.clientId := sameClient targeted
  have bindingId : row.bindingId = ev.bindingId := sameBinding targeted
  refine ⟨clientId, bindingId, ⟨row, present, owner.trans clientId, bindingId, connected⟩, ?_⟩
  intro isEntry
  have opened := gate (by simp [isEntry])
  unfold entryGate at opened
  simp only [if_pos targeted] at opened
  split at opened
  · simp at opened
  · obtain ⟨deployment, found, running⟩ := List.any_eq_true.mp opened
    obtain ⟨kept, ofClient, ofBinding, strategy, underlying, active⟩ := mem_matching found
    exact ⟨deployment, kept, ofClient.trans clientId, ofBinding.trans bindingId, strategy,
      underlying, active, by simpa using running⟩

/-- At most one execution: all of them are on the stamped binding, and no two on one. -/
theorem handle_once (keyed : Keyed registry db) (stamp : Stamped ev) :
    (handle db brokers ev registry).length ≤ 1 := by
  have apart : (handle db brokers ev registry).Pairwise Apart := handle_apart keyed
  match shape : handle db brokers ev registry with
  | [] => simp
  | [execution] => simp
  | first :: second :: rest =>
    exfalso
    have firstIn : first ∈ handle db brokers ev registry := by simp [shape]
    have secondIn : second ∈ handle db brokers ev registry := by simp [shape]
    obtain ⟨firstClient, firstBinding, -⟩ := handle_stamped stamp firstIn
    obtain ⟨secondClient, secondBinding, -⟩ := handle_stamped stamp secondIn
    rw [shape, List.pairwise_cons] at apart
    apply apart.1 second List.mem_cons_self
    rw [firstClient, firstBinding, secondClient, secondBinding]

/-- A stamped EXIT passes every gate of the loops; only the rounds it needs may be
missing, because the client was filtered out or its rows could not be read. -/
theorem exit_executed (stamp : Stamped ev) (isExit : ev.action = .exit)
    (connected : Connected db ev) :
    handle db brokers ev registry ≠ [] ↔ Reachable registry db ev := by
  constructor
  · intro executed
    obtain ⟨execution, member⟩ := List.exists_mem_of_ne_nil _ executed
    obtain ⟨client, registered, active, sameClient, row, stored, -⟩ := mem_handle.mp member
    have targeted : target ev ≠ none := by simp [target_stamped stamp]
    exact ⟨(mem_getBindings.mp stored).1, client, registered, active, sameClient targeted⟩
  · rintro ⟨read, client, registered, active, clientId⟩
    obtain ⟨row, present, owner, bindingId, terminal⟩ := connected
    have routed : routeBinding db brokers ev client.clientId row =
        some ⟨client.clientId, row.bindingId, fillMode brokers client.clientId row⟩ :=
      routeBinding_spec.mpr
        ⟨fun _ => bindingId, terminal, fun notExit => absurd isExit notExit, rfl⟩
    apply List.ne_nil_of_mem
    exact mem_handle.mpr ⟨client, registered, active, fun _ => clientId, row,
      mem_getBindings.mpr ⟨read, present, owner.trans clientId.symm⟩, routed⟩

end Routes

/-- A stamped event is routed as it should be exactly if, when it is an EXIT of a
connected binding, the client is active and its rows can be read. -/
theorem targeted_routing_iff {β : Type} (registry : ClientRegistry) (db : ClientDb)
    (brokers : String → String → Option β) (ev : StraddleOrderEvent)
    (keyed : Keyed registry db) (stamp : Stamped ev) :
    Targeted db ev (handle db brokers ev registry) ↔
      (ev.action = .exit → Connected db ev → Reachable registry db ev) := by
  constructor
  · intro routed isExit connected
    exact (exit_executed stamp isExit connected).mp (routed.exit isExit connected)
  · intro reachable
    refine ⟨handle_once keyed stamp, ?_, ?_, ?_⟩
    · intro execution executed
      obtain ⟨sameClient, sameBinding, -⟩ := handle_stamped stamp executed
      exact ⟨sameClient, sameBinding⟩
    · intro isEntry executed
      obtain ⟨execution, member⟩ := List.exists_mem_of_ne_nil _ executed
      obtain ⟨-, -, connected, running⟩ := handle_stamped stamp member
      exact ⟨connected, running isEntry⟩
    · intro isExit connected
      exact (exit_executed stamp isExit connected).mpr (reachable isExit connected)

/-- A square-off of one binding, whose deployment has just been stopped. -/
def squareOff : StraddleOrderEvent where
  action := .exit
  underlying := "NIFTY"
  atm := 23000
  ceStrike := 23000
  peStrike := 23000
  ceLtp := 100
  peLtp := 100
  lotMultiplier := 1
  lotSize := 75
  spot := 23010
  eventId := ⟨"NIFTY", .exit, 2⟩
  clientId := "A"
  bindingId := "A_b1"

def stoppedDb : ClientDb where
  bindings := [⟨"A", "A_b1", true, false, some "live"⟩, ⟨"B", "B_b1", true, true, some "live"⟩]
  deployments := [⟨"A", "A_b1", "sell_straddle", "NIFTY", true, some 0⟩]

theorem stopped_deployment_closes :
    Targeted stoppedDb squareOff
      (handle stoppedDb (fun _ _ => some "DELTA") squareOff
        [{ clientId := "A" }, { clientId := "B" }]) :=
  (targeted_routing_iff _ _ _ _ ⟨by decide, by decide⟩ ⟨by decide, by decide⟩).mpr
    (fun _ _ => ⟨rfl, { clientId := "A" }, by simp, rfl, rfl⟩)

/-- The same square-off reaches nobody once the client is inactive. -/
theorem inactive_client_strands :
    Keyed [{ clientId := "A", active := false }, { clientId := "B" }] stoppedDb ∧
      Stamped squareOff ∧ Connected stoppedDb squareOff ∧
      ¬ Targeted stoppedDb squareOff
        (handle stoppedDb (fun _ _ => some "DELTA") squareOff
          [{ clientId := "A", active := false }, { clientId := "B" }]) := by
  have connected : Connected stoppedDb squareOff :=
    ⟨⟨"A", "A_b1", true, false, some "live"⟩, by simp [stoppedDb], rfl, rfl, rfl⟩
  refine ⟨⟨by decide, by decide⟩, ⟨by decide, by decide⟩, connected, ?_⟩
  intro routed
  apply routed.exit rfl connected
  decide

end OptionChain.StraddleRouting
