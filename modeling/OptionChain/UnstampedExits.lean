import OptionChain.StraddleRouting

/-!
# An EXIT without a target

An event that names no binding is routed to all that are eligible. The exemption of an
EXIT from the gate on running deployments also exempts it from the gate on deployments,
so an EXIT without a target is executed on every connected binding of every active client.

It stays where it belongs exactly if all of these have a deployment on the underlying and
have been sold the straddle before.
-/

namespace OptionChain.UnstampedExits

open ClientProfiles StraddleEvents StraddleRouting

/-- One event, with the clients, the rows and the brokers as they are when it is handled. -/
structure Round (β : Type) where
  registry : ClientRegistry
  db : ClientDb
  brokers : String → String → Option β
  ev : StraddleOrderEvent

/-- The binding rows under another setting of `engine_active`. -/
def withEngine (db : ClientDb) (engine : String → String → Bool) : ClientDb :=
  { db with bindings := db.bindings.map (fun row =>
      { row with engineActive := engine row.clientId row.bindingId }) }

namespace Round

variable {β : Type} (round : Round β)

def executions : List (Execution β) :=
  handle round.db round.brokers round.ev round.registry

/-- The event is executed on the binding. -/
def Reaches (clientId bindingId : String) : Prop :=
  ∃ execution ∈ round.executions, execution.clientId = clientId ∧ execution.bindingId = bindingId

/-- An ENTRY in place of the event, under a setting of `engine_active`. -/
def asEntry (engine : String → String → Bool) : Round β :=
  { round with
    db := withEngine round.db engine
    ev := { round.ev with action := .entry } }

/-- The binding has its terminal connected, and its client is active. -/
def Connects (clientId bindingId : String) : Prop :=
  round.db.bindingsRead = true ∧
    (∃ client ∈ round.registry, client.active = true ∧ client.clientId = clientId) ∧
    ∃ row ∈ round.db.bindings, row.clientId = clientId ∧ row.bindingId = bindingId ∧
      row.terminalConnected = true

/-- The binding has a deployment of the strategy on the underlying of the event. -/
def Deploys (clientId bindingId : String) : Prop :=
  ∃ row ∈ round.db.deployments, row.clientId = clientId ∧ row.bindingId = bindingId ∧
    row.strategyName = "sell_straddle" ∧ row.underlying.toUpper = round.ev.underlying.toUpper

/-- An earlier ENTRY on the underlying was executed on the binding. -/
def Sold (history : List (Round β)) (clientId bindingId : String) : Prop :=
  ∃ earlier ∈ history, earlier.ev.action = .entry ∧
    earlier.ev.underlying.toUpper = round.ev.underlying.toUpper ∧
    earlier.Reaches clientId bindingId

/-- An EXIT is confined if each binding it reaches has a deployment, could be reached by an
ENTRY under some setting of `engine_active`, and has sold the straddle. -/
structure Confined (history : List (Round β)) : Prop where
  deployed : ∀ clientId bindingId, round.Reaches clientId bindingId →
    round.Deploys clientId bindingId
  entered : ∀ clientId bindingId, round.Reaches clientId bindingId →
    ∃ engine, (round.asEntry engine).Reaches clientId bindingId
  sold : ∀ clientId bindingId, round.Reaches clientId bindingId →
    round.Sold history clientId bindingId

end Round

open Round

section Exits

variable {β : Type} {round : Round β} {clientId bindingId : String}

theorem target_unstamped {ev : StraddleOrderEvent} (unstamped : ¬ Stamped ev) :
    target ev = none := if_neg unstamped

/-- What an event without a target reaches: the connected bindings of the active clients
that pass the gate of an ENTRY, if it is one. -/
theorem reaches_iff (unstamped : ¬ Stamped round.ev) :
    round.Reaches clientId bindingId ↔
      round.db.bindingsRead = true ∧
      (∃ client ∈ round.registry, client.active = true ∧ client.clientId = clientId) ∧
      ∃ row ∈ round.db.bindings, row.clientId = clientId ∧ row.bindingId = bindingId ∧
        row.terminalConnected = true ∧
        (round.ev.action ≠ .exit → entryGate round.db round.ev clientId row = true) := by
  have untargeted := target_unstamped unstamped
  constructor
  · rintro ⟨execution, executed, rfl, rfl⟩
    obtain ⟨client, registered, active, -, row, stored, routed⟩ := mem_handle.mp executed
    obtain ⟨-, connected, gate, rfl⟩ := routeBinding_spec.mp routed
    obtain ⟨read, present, owner⟩ := mem_getBindings.mp stored
    exact ⟨read, ⟨client, registered, active, rfl⟩, row, present, owner, rfl, connected, gate⟩
  · rintro ⟨read, ⟨client, registered, active, rfl⟩, row, present, owner, same, connected, gate⟩
    refine ⟨⟨client.clientId, row.bindingId, fillMode round.brokers client.clientId row⟩,
      mem_handle.mpr ⟨client, registered, active, ?_, row, ?_, ?_⟩, rfl, same⟩
    · intro targeted
      exact absurd untargeted targeted
    · exact mem_getBindings.mpr ⟨read, present, owner⟩
    · refine routeBinding_spec.mpr ⟨?_, connected, gate, rfl⟩
      intro targeted
      exact absurd untargeted targeted

/-- An EXIT reaches every connected binding. -/
theorem exit_reaches_iff (unstamped : ¬ Stamped round.ev) (isExit : round.ev.action = .exit) :
    round.Reaches clientId bindingId ↔ round.Connects clientId bindingId := by
  rw [reaches_iff unstamped]
  constructor
  · rintro ⟨read, client, row, present, owner, same, connected, -⟩
    exact ⟨read, client, row, present, owner, same, connected⟩
  · rintro ⟨read, client, row, present, owner, same, connected⟩
    exact ⟨read, client, row, present, owner, same, connected,
      fun notExit => absurd isExit notExit⟩

/-- An ENTRY without a target passes the gate of a binding that has a deployment and its
engine on. -/
theorem entryGate_untargeted {db : ClientDb} {ev : StraddleOrderEvent} {row : BindingRow}
    (unstamped : ¬ Stamped ev) :
    entryGate db ev clientId row = true ↔
      matching db ev clientId row.bindingId ≠ [] ∧ row.engineActive = true := by
  unfold entryGate
  simp only [target_unstamped unstamped]
  split
  · rename_i missing
    simp [missing]
  · rename_i found
    simp [found]

/-- Neither the engine switches nor the action change which deployments match. -/
theorem matching_asEntry (engine : String → String → Bool) :
    matching (round.asEntry engine).db (round.asEntry engine).ev clientId bindingId =
      matching round.db round.ev clientId bindingId := rfl

theorem asEntry_unstamped (unstamped : ¬ Stamped round.ev) (engine : String → String → Bool) :
    ¬ Stamped (round.asEntry engine).ev := unstamped

/-- Under some setting of `engine_active`, an ENTRY reaches the connected bindings for which
the query of the deployments answers with one. -/
theorem entry_reaches_iff (unstamped : ¬ Stamped round.ev) :
    (∃ engine, (round.asEntry engine).Reaches clientId bindingId) ↔
      round.Connects clientId bindingId ∧ matching round.db round.ev clientId bindingId ≠ [] := by
  constructor
  · rintro ⟨engine, reached⟩
    obtain ⟨read, client, row, present, owner, same, connected, gate⟩ :=
      (reaches_iff (asEntry_unstamped unstamped engine)).mp reached
    obtain ⟨stored, member, rfl⟩ := List.mem_map.mp present
    have admitted := gate (fun isExit => by cases isExit)
    obtain ⟨found, -⟩ := (entryGate_untargeted (asEntry_unstamped unstamped engine)).mp admitted
    rw [same, matching_asEntry] at found
    exact ⟨⟨read, client, stored, member, owner, same, connected⟩, found⟩
  · rintro ⟨⟨read, client, row, present, owner, same, connected⟩, found⟩
    let engine : String → String → Bool := fun _ _ => true
    refine ⟨engine, (reaches_iff (asEntry_unstamped unstamped engine)).mpr
      ⟨read, client, _, List.mem_map.mpr ⟨row, present, rfl⟩, owner, same, connected, ?_⟩⟩
    intro _
    refine (entryGate_untargeted (asEntry_unstamped unstamped engine)).mpr ⟨?_, rfl⟩
    rw [matching_asEntry]
    exact same ▸ found

/-- A deployment that the query answers with is one of the binding. -/
theorem deploys_of_matching (found : matching round.db round.ev clientId bindingId ≠ []) :
    round.Deploys clientId bindingId := by
  obtain ⟨row, member⟩ := List.exists_mem_of_ne_nil _ found
  obtain ⟨stored, ofClient, ofBinding, strategy, underlying, -⟩ := mem_matching member
  exact ⟨row, stored, ofClient, ofBinding, strategy, underlying⟩

end Exits

/-- An EXIT without a target is confined exactly if every connected binding of an active
client has a deployment on its underlying and has sold the straddle. -/
theorem confined_iff {β : Type} (history : List (Round β)) (round : Round β)
    (unstamped : ¬ Stamped round.ev) (isExit : round.ev.action = .exit) :
    round.Confined history ↔
      ∀ clientId bindingId, round.Connects clientId bindingId →
        matching round.db round.ev clientId bindingId ≠ [] ∧
          round.Sold history clientId bindingId := by
  constructor
  · intro confined clientId bindingId connects
    have reached := (exit_reaches_iff unstamped isExit).mpr connects
    have entered := confined.entered clientId bindingId reached
    exact ⟨((entry_reaches_iff unstamped).mp entered).2, confined.sold _ _ reached⟩
  · intro entitled
    have connects : ∀ clientId bindingId, round.Reaches clientId bindingId →
        round.Connects clientId bindingId :=
      fun _ _ reached => (exit_reaches_iff unstamped isExit).mp reached
    constructor
    · intro clientId bindingId reached
      exact deploys_of_matching (entitled _ _ (connects _ _ reached)).1
    · intro clientId bindingId reached
      have connected := connects _ _ reached
      exact (entry_reaches_iff unstamped).mpr ⟨connected, (entitled _ _ connected).1⟩
    · intro clientId bindingId reached
      exact (entitled _ _ (connects _ _ reached)).2

/-- An EXIT that names nobody, while one client of two is deployed. -/
def legacyExit : Round String where
  registry := [{ clientId := "A" }, { clientId := "B" }]
  db :=
    { bindings :=
        [⟨"A", "A_b1", true, true, some "live"⟩, ⟨"B", "B_b1", true, false, some "live"⟩]
      deployments := [⟨"A", "A_b1", "sell_straddle", "NIFTY", true, some 1⟩] }
  brokers := fun _ _ => some "DELTA"
  ev := { squareOff with clientId := "", bindingId := "" }

/-- The same clients while only the deployed one is registered. -/
def loneExit : Round String := { legacyExit with registry := [{ clientId := "A" }] }

def loneEntry : Round String := { loneExit with ev := { loneExit.ev with action := .entry } }

theorem lone_connects {clientId bindingId : String}
    (connects : loneExit.Connects clientId bindingId) :
    clientId = "A" ∧ bindingId = "A_b1" := by
  obtain ⟨-, ⟨client, registered, -, rfl⟩, row, present, owner, rfl, -⟩ := connects
  obtain rfl := List.mem_singleton.mp registered
  rcases List.mem_cons.mp present with rfl | other
  · exact ⟨rfl, rfl⟩
  · obtain rfl := List.mem_singleton.mp other
    exact absurd owner (by decide)

theorem lone_deployed : matching loneExit.db loneExit.ev "A" "A_b1" ≠ [] := by
  simp [matching, ClientDb.getDeploymentsSync, loneExit, legacyExit, squareOff]

/-- The exit of the one binding that was sold the straddle is confined. -/
theorem lone_exit_confined : loneExit.Confined [loneEntry] := by
  refine (confined_iff [loneEntry] loneExit (fun stamp => stamp.1 rfl) rfl).mpr ?_
  intro clientId bindingId connects
  obtain ⟨rfl, rfl⟩ := lone_connects connects
  refine ⟨lone_deployed, loneEntry, List.mem_singleton_self _, rfl, rfl, ?_⟩
  refine (reaches_iff (fun stamp => stamp.1 rfl)).mpr
    ⟨rfl, ⟨{ clientId := "A" }, by decide, rfl, rfl⟩, _, List.mem_cons_self, rfl, rfl, rfl, ?_⟩
  intro _
  exact (entryGate_untargeted (fun stamp => stamp.1 rfl)).mpr ⟨lone_deployed, rfl⟩

def legacyEntry : Round String :=
  { legacyExit with ev := { legacyExit.ev with action := .entry } }

/-- The other client never sold the straddle and has no deployment, and buys one. -/
theorem legacy_exit_spreads :
    legacyExit.Reaches "B" "B_b1" ∧ ¬ legacyExit.Deploys "B" "B_b1" ∧
      ¬ legacyExit.Confined [legacyEntry] := by
  have reached : legacyExit.Reaches "B" "B_b1" :=
    (exit_reaches_iff (fun stamp => stamp.1 rfl) rfl).mpr
      ⟨rfl, ⟨{ clientId := "B" }, by decide, rfl, rfl⟩, _,
        List.mem_cons_of_mem _ List.mem_cons_self, rfl, rfl, rfl⟩
  have undeployed : ¬ legacyExit.Deploys "B" "B_b1" := by
    rintro ⟨row, present, owner, -⟩
    obtain rfl := List.mem_singleton.mp present
    exact absurd owner (by decide)
  exact ⟨reached, undeployed, fun confined => undeployed (confined.deployed _ _ reached)⟩

end OptionChain.UnstampedExits
