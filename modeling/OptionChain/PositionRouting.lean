import OptionChain.Deployments
import OptionChain.IronCondor
import OptionChain.Runs
import OptionChain.StraddleRouting

/-!
# Routing the close of a position

Both bridges decide at every event, from the database as it is then, where an order goes
and whether it is real. Nothing remembers how the entry was executed, so the close follows
the flags of its own moment.
-/

namespace OptionChain.PositionRouting

open ClientProfiles IronCondor Runs StraddleEvents StraddleRouting

/-! ## The condor bridge -/

section Condor

variable {β : Type} (db : ClientDb) (brokers : String → String → Option β) (ev : ICOrderEvent)

/-- The binding has an iron condor deployment on the underlying of the event. -/
def condorDeployed (clientId bindingId : String) : Bool :=
  (db.getDeploymentsSync clientId).any (fun row =>
    decide (row.bindingId = bindingId) && decide (row.strategyName = "iron_condor") &&
      decide (row.underlying.toUpper = ev.underlying.toUpper))

/-- A paper fill of the condor bridge has no use for a broker. -/
def condorFill (clientId : String) (row : BindingRow) : Fill β :=
  let mode := if row.tradingMode.getD "" = "" then "paper" else row.tradingMode.getD ""
  match brokers clientId row.bindingId with
  | none => .paper none
  | some broker => if mode = "paper" then .paper none else .live broker

/-- The body of the inner loop. -/
def routeCondor (clientId : String) (row : BindingRow) : Option (Execution β) :=
  if row.engineActive = false then none
  else if row.terminalConnected = false then none
  else if condorDeployed db ev clientId row.bindingId = false then none
  else some ⟨clientId, row.bindingId, condorFill brokers clientId row⟩

/-- `ICExecutionBridge._handle`. -/
def handleCondor (registry : ClientRegistry) : List (Execution β) :=
  registry.allActive.flatMap (fun client =>
    (db.getBindingsSafeSync client.clientId).filterMap (routeCondor db brokers ev client.clientId))

end Condor

/-! ## Changes between two events -/

/-- The clients, the database and the connected brokers. -/
structure World (β : Type) where
  registry : ClientRegistry
  db : ClientDb
  brokers : String → String → Option β
  keyed : Keyed registry db

def deployIdOf (row : StraddleRouting.DeploymentRow) : String :=
  Deployments.Deployment.deployId
    ⟨row.clientId, row.bindingId, row.strategyName, row.underlying⟩

inductive Change (β : Type) where
  | setDeploymentRunning (deployId clientId : String) (running : Bool)
  | setEngineActive (clientId bindingId : String) (active : Bool)
  | setTradingMode (clientId bindingId mode : String)
  | setTerminalConnected (clientId bindingId : String) (connected : Bool)
  | setBroker (clientId bindingId : String) (broker : Option β)

/-- An update of one column of a binding. -/
def updateBinding (db : ClientDb) (clientId bindingId : String)
    (column : BindingRow → BindingRow) : ClientDb :=
  { db with
    bindings := db.bindings.map (fun row =>
      if row.clientId = clientId ∧ row.bindingId = bindingId then column row else row) }

def updateRunning (db : ClientDb) (deployId clientId : String) (running : Bool) : ClientDb :=
  { db with
    deployments := db.deployments.map (fun row =>
      if deployIdOf row = deployId ∧ row.clientId = clientId then
        { row with isRunning := some (if running then 1 else 0) }
      else row) }

/-- A column that is not part of the key. -/
def Unkeyed (column : BindingRow → BindingRow) : Prop :=
  ∀ row, (column row).clientId = row.clientId ∧ (column row).bindingId = row.bindingId

theorem keyed_updateBinding {registry : ClientRegistry} {db : ClientDb} (keyed : Keyed registry db)
    (clientId bindingId : String) {column : BindingRow → BindingRow} (unkeyed : Unkeyed column) :
    Keyed registry (updateBinding db clientId bindingId column) := by
  refine ⟨keyed.clients, ?_⟩
  have same : (updateBinding db clientId bindingId column).bindings.map
      (fun row => (row.clientId, row.bindingId)) =
        db.bindings.map (fun row => (row.clientId, row.bindingId)) := by
    simp only [updateBinding, List.map_map]
    apply List.map_congr_left
    intro row _
    simp only [Function.comp_apply]
    split
    · rw [(unkeyed row).1, (unkeyed row).2]
    · rfl
  rw [same]
  exact keyed.bindings

variable {β : Type}

/-- The world with one column of a binding changed. -/
def World.update (world : World β) (clientId bindingId : String)
    (column : BindingRow → BindingRow) (unkeyed : Unkeyed column) : World β :=
  { world with
    db := updateBinding world.db clientId bindingId column
    keyed := keyed_updateBinding world.keyed clientId bindingId unkeyed }

def apply (world : World β) : Change β → World β
  | .setDeploymentRunning deployId clientId running =>
    { world with
      db := updateRunning world.db deployId clientId running
      keyed := ⟨world.keyed.clients, world.keyed.bindings⟩ }
  | .setEngineActive clientId bindingId active =>
    world.update clientId bindingId (fun row => { row with engineActive := active })
      (fun _ => ⟨rfl, rfl⟩)
  | .setTradingMode clientId bindingId mode =>
    world.update clientId bindingId (fun row => { row with tradingMode := some mode })
      (fun _ => ⟨rfl, rfl⟩)
  | .setTerminalConnected clientId bindingId connected =>
    world.update clientId bindingId (fun row => { row with terminalConnected := connected })
      (fun _ => ⟨rfl, rfl⟩)
  | .setBroker clientId bindingId broker =>
    { world with
      brokers := fun client binding =>
        if client = clientId ∧ binding = bindingId then broker else world.brokers client binding }

/-! ## Positions -/

inductive Order where
  | straddle (ev : StraddleOrderEvent)
  | condor (ev : ICOrderEvent)
deriving DecidableEq

def executions (world : World β) : Order → List (Execution β)
  | .straddle ev => handle world.db world.brokers ev world.registry
  | .condor ev => handleCondor world.db world.brokers ev world.registry

/-- The second order closes what the first opens. Straddle orders name their binding. -/
inductive Closes : Order → Order → Prop where
  | straddle {entry exit : StraddleOrderEvent} : Stamped entry → entry.action = .entry →
      exit.action = .exit → exit.clientId = entry.clientId → exit.bindingId = entry.bindingId →
      exit.underlying = entry.underlying → Closes (.straddle entry) (.straddle exit)
  | condor {entry exit : ICOrderEvent} : entry.action = .entry → exit.action = .exit →
      exit.underlying = entry.underlying → Closes (.condor entry) (.condor exit)

structure Position where
  entry : Order
  exit : Order
  closes : Closes entry exit

def Live (execution : Execution β) : Prop := ∃ broker, execution.fill = .live broker

/-- The binding of an execution. -/
def Binds (row : BindingRow) (execution : Execution β) : Prop :=
  row.clientId = execution.clientId ∧ row.bindingId = execution.bindingId

/-- Terminal and broker of a binding are there. -/
def Reached (world : World β) (row : BindingRow) : Prop :=
  row ∈ world.db.bindings ∧ row.terminalConnected = true ∧
    (world.brokers row.clientId row.bindingId).isSome = true

/-- What was opened live is closed live where the binding can be reached, and what was
opened on paper is not closed with real orders. -/
structure ClosedAsOpened (before after : World β) (position : Position) : Prop where
  live : ∀ opening ∈ executions before position.entry, Live opening →
    ∀ row, Binds row opening → Reached after row →
      ∃ closing ∈ executions after position.exit, closing.clientId = opening.clientId ∧
        closing.bindingId = opening.bindingId ∧ Live closing
  paper : ∀ opening ∈ executions before position.entry, ¬ Live opening →
    ∀ closing ∈ executions after position.exit, closing.clientId = opening.clientId →
      closing.bindingId = opening.bindingId → ¬ Live closing

def liveMode (row : BindingRow) : Prop :=
  row.tradingMode.getD "" ≠ "" ∧ row.tradingMode.getD "" ≠ "paper"

/-- The flags under which a bridge sends real orders to a binding. -/
def TakesOrders : Order → BindingRow → Prop
  | .straddle _, row => liveMode row
  | .condor _, row => row.engineActive = true ∧ liveMode row

/-- Where the binding of the entry can be reached, its flags at the close are those of a
live binding exactly if the entry was live. -/
def Met (before after : World β) (position : Position) : Prop :=
  ∀ opening ∈ executions before position.entry, ∀ row, Binds row opening → Reached after row →
    (TakesOrders position.exit row ↔ Live opening)

/-! ## Single routes -/

section Routes

variable {registry : ClientRegistry} {db : ClientDb} {brokers : String → String → Option β}

theorem fillMode_live (clientId : String) (row : BindingRow) :
    (∃ broker, fillMode brokers clientId row = .live broker) ↔
      (brokers clientId row.bindingId).isSome = true ∧ liveMode row := by
  unfold fillMode liveMode
  cases brokers clientId row.bindingId with
  | none => simp
  | some broker =>
    by_cases unset : row.tradingMode.getD "" = ""
    · simp [unset]
    · by_cases paper : row.tradingMode.getD "" = "paper" <;> simp [unset, paper]

/-- The two bridges send real orders alike. -/
theorem condorFill_eq_live (clientId : String) (row : BindingRow) (broker : β) :
    condorFill brokers clientId row = .live broker ↔
      fillMode brokers clientId row = .live broker := by
  unfold condorFill fillMode
  cases brokers clientId row.bindingId with
  | none => simp
  | some connected =>
    dsimp only
    split_ifs <;> simp

theorem routeCondor_spec {ev : ICOrderEvent} {clientId : String} {row : BindingRow}
    {execution : Execution β} :
    routeCondor db brokers ev clientId row = some execution ↔
      row.engineActive = true ∧ row.terminalConnected = true ∧
      condorDeployed db ev clientId row.bindingId = true ∧
      execution = ⟨clientId, row.bindingId, condorFill brokers clientId row⟩ := by
  unfold routeCondor
  split_ifs with idle apart undeployed
  · simp [idle]
  · simp [apart]
  · simp [undeployed]
  · simp only [Bool.not_eq_false] at idle apart undeployed
    simp [idle, apart, undeployed, eq_comm]

/-- Every condor execution comes from one active client and one row of its bindings. -/
theorem mem_handleCondor {ev : ICOrderEvent} {execution : Execution β} :
    execution ∈ handleCondor db brokers ev registry ↔
      ∃ client ∈ registry, client.active = true ∧
        ∃ row ∈ db.getBindingsSafeSync client.clientId,
          routeCondor db brokers ev client.clientId row = some execution := by
  simp [handleCondor, ClientRegistry.allActive, List.mem_flatMap, List.mem_filterMap, and_assoc]

theorem condorDeployed_iff {ev : ICOrderEvent} {clientId bindingId : String} :
    condorDeployed db ev clientId bindingId = true ↔
      db.deploymentsRead = true ∧ ∃ row ∈ db.deployments, row.clientId = clientId ∧
        row.isActive = true ∧ row.bindingId = bindingId ∧ row.strategyName = "iron_condor" ∧
        row.underlying.toUpper = ev.underlying.toUpper := by
  unfold condorDeployed ClientDb.getDeploymentsSync
  by_cases read : db.deploymentsRead = true <;> simp [read, and_assoc]

end Routes

/-! ## What the changes leave -/

/-- What a close needs besides the row of its binding. -/
structure Frame (before after : World β) : Prop where
  registry : after.registry = before.registry
  read : after.db.bindingsRead = before.db.bindingsRead
  deployed : ∀ ev clientId bindingId,
    condorDeployed after.db ev clientId bindingId = condorDeployed before.db ev clientId bindingId

/-- Starting and stopping deployments leaves them deployed. -/
theorem deployed_updateRunning (db : ClientDb) (deployId owner : String) (running : Bool)
    (ev : ICOrderEvent) (clientId bindingId : String) :
    condorDeployed (updateRunning db deployId owner running) ev clientId bindingId =
      condorDeployed db ev clientId bindingId := by
  rw [Bool.eq_iff_iff, condorDeployed_iff, condorDeployed_iff]
  simp only [updateRunning, List.mem_map]
  constructor
  · rintro ⟨read, _, ⟨row, stored, rfl⟩, kept⟩
    refine ⟨read, row, stored, ?_⟩
    split at kept <;> exact kept
  · rintro ⟨read, row, stored, kept⟩
    refine ⟨read, _, ⟨row, stored, rfl⟩, ?_⟩
    split <;> exact kept

theorem frame_apply (world : World β) (change : Change β) : Frame world (apply world change) := by
  cases change with
  | setDeploymentRunning deployId clientId running =>
    exact ⟨rfl, rfl, deployed_updateRunning world.db deployId clientId running⟩
  | setEngineActive clientId bindingId active => exact ⟨rfl, rfl, fun _ _ _ => rfl⟩
  | setTradingMode clientId bindingId mode => exact ⟨rfl, rfl, fun _ _ _ => rfl⟩
  | setTerminalConnected clientId bindingId connected => exact ⟨rfl, rfl, fun _ _ _ => rfl⟩
  | setBroker clientId bindingId broker => exact ⟨rfl, rfl, fun _ _ _ => rfl⟩

theorem frame_run (world : World β) (changes : List (Change β)) :
    Frame world (run apply world changes) := by
  induction changes generalizing world with
  | nil => exact ⟨rfl, rfl, fun _ _ _ => rfl⟩
  | cons change rest inductionHypothesis =>
    have first := frame_apply world change
    have later := inductionHypothesis (apply world change)
    exact ⟨later.registry.trans first.registry, later.read.trans first.read,
      fun ev clientId bindingId =>
        (later.deployed ev clientId bindingId).trans (first.deployed ev clientId bindingId)⟩

/-! ## The close -/

/-- A row that takes real orders is one that can be reached and is in live mode. -/
theorem reached_of_live {world : World β} {clientId : String} {row : BindingRow}
    (present : row ∈ world.db.getBindingsSafeSync clientId)
    (connected : row.terminalConnected = true)
    (live : ∃ broker, fillMode world.brokers clientId row = .live broker) :
    row.clientId = clientId ∧ Reached world row ∧ liveMode row := by
  obtain ⟨-, listed, owned⟩ := mem_getBindings.mp present
  obtain ⟨broker, mode⟩ := (fillMode_live clientId row).mp live
  refine ⟨owned, ⟨listed, connected, ?_⟩, mode⟩
  rw [owned]
  exact broker

theorem live_of_reached {world : World β} {clientId : String} {row : BindingRow}
    (owned : row.clientId = clientId) (reached : Reached world row) (mode : liveMode row) :
    ∃ broker, fillMode world.brokers clientId row = .live broker := by
  rw [fillMode_live, ← owned]
  exact ⟨reached.2.2, mode⟩

/-- A stamped EXIT goes to the binding of the entry with real orders exactly if that can
be reached and is in live mode. -/
theorem straddle_closing_iff {before after : World β} (frame : Frame before after)
    {entry exit : StraddleOrderEvent} (stamp : Stamped entry) (closes : exit.action = .exit)
    (client : exit.clientId = entry.clientId) (binding : exit.bindingId = entry.bindingId)
    {opening : Execution β}
    (opened : opening ∈ handle before.db before.brokers entry before.registry) :
    (∃ closing ∈ handle after.db after.brokers exit after.registry,
      closing.clientId = opening.clientId ∧ closing.bindingId = opening.bindingId ∧
        Live closing) ↔
      ∃ row, Binds row opening ∧ Reached after row ∧ liveMode row := by
  have exitStamp : Stamped exit := by
    rw [Stamped, client, binding]
    exact stamp
  have entryTargeted : target entry ≠ none := by simp [target_stamped stamp]
  have exitTargeted : target exit ≠ none := by simp [target_stamped exitStamp]
  obtain ⟨owner, registered, active, ofEntry, known, stored, routed⟩ := mem_handle.mp opened
  obtain ⟨onEntry, -, -, rfl⟩ := routeBinding_spec.mp routed
  have sameClient : owner.clientId = exit.clientId := (ofEntry entryTargeted).trans client.symm
  have sameBinding : known.bindingId = exit.bindingId := (onEntry entryTargeted).trans binding.symm
  constructor
  · rintro ⟨closing, executed, ofOwner, ofKnown, live⟩
    obtain ⟨other, -, -, -, row, present, further⟩ := mem_handle.mp executed
    obtain ⟨-, connected, -, rfl⟩ := routeBinding_spec.mp further
    obtain ⟨owned, reached, mode⟩ := reached_of_live present connected live
    exact ⟨row, ⟨owned.trans ofOwner, ofKnown⟩, reached, mode⟩
  · rintro ⟨row, ⟨ofOwner, ofKnown⟩, reached, mode⟩
    have further : routeBinding after.db after.brokers exit owner.clientId row =
        some ⟨owner.clientId, row.bindingId, fillMode after.brokers owner.clientId row⟩ :=
      routeBinding_spec.mpr
        ⟨fun _ => ofKnown.trans sameBinding, reached.2.1, fun open_ => absurd closes open_, rfl⟩
    have read : after.db.bindingsRead = true := frame.read.trans (mem_getBindings.mp stored).1
    refine ⟨_, mem_handle.mpr ⟨owner, ?_, active, fun _ => sameClient, row,
      mem_getBindings.mpr ⟨read, reached.1, ofOwner⟩, further⟩, rfl, ofKnown, ?_⟩
    · rw [frame.registry]
      exact registered
    · exact live_of_reached ofOwner reached mode

/-- A condor EXIT does so exactly if the binding can be reached, its engine is on and it
is in live mode. -/
theorem condor_closing_iff {before after : World β} (frame : Frame before after)
    {entry exit : ICOrderEvent} (underlying : exit.underlying = entry.underlying)
    {opening : Execution β}
    (opened : opening ∈ handleCondor before.db before.brokers entry before.registry) :
    (∃ closing ∈ handleCondor after.db after.brokers exit after.registry,
      closing.clientId = opening.clientId ∧ closing.bindingId = opening.bindingId ∧
        Live closing) ↔
      ∃ row, Binds row opening ∧ Reached after row ∧ row.engineActive = true ∧ liveMode row := by
  obtain ⟨owner, registered, active, known, stored, routed⟩ := mem_handleCondor.mp opened
  obtain ⟨-, -, deployed, rfl⟩ := routeCondor_spec.mp routed
  constructor
  · rintro ⟨closing, executed, ofOwner, ofKnown, live⟩
    obtain ⟨other, -, -, row, present, further⟩ := mem_handleCondor.mp executed
    obtain ⟨engine, connected, -, rfl⟩ := routeCondor_spec.mp further
    obtain ⟨owned, reached, mode⟩ := reached_of_live present connected (by
      simpa only [Live, condorFill_eq_live] using live)
    exact ⟨row, ⟨owned.trans ofOwner, ofKnown⟩, reached, engine, mode⟩
  · rintro ⟨row, ⟨ofOwner, ofKnown⟩, reached, engine, mode⟩
    have still : condorDeployed after.db exit owner.clientId row.bindingId = true := by
      rw [frame.deployed, show row.bindingId = known.bindingId from ofKnown]
      simpa only [condorDeployed, underlying] using deployed
    have further := routeCondor_spec.mpr
      ⟨engine, reached.2.1, still, (rfl : _ = Execution.mk owner.clientId row.bindingId
        (condorFill after.brokers owner.clientId row))⟩
    have read : after.db.bindingsRead = true := frame.read.trans (mem_getBindings.mp stored).1
    refine ⟨_, mem_handleCondor.mpr ⟨owner, ?_, active, row,
      mem_getBindings.mpr ⟨read, reached.1, ofOwner⟩, further⟩, rfl, ofKnown, ?_⟩
    · rw [frame.registry]
      exact registered
    · simpa only [Live, condorFill_eq_live] using live_of_reached ofOwner reached mode

/-- The close goes to the binding of the entry with real orders exactly if that can be
reached and its flags take them. -/
theorem live_closing_iff {before after : World β} (frame : Frame before after)
    (position : Position) {opening : Execution β}
    (opened : opening ∈ executions before position.entry) :
    (∃ closing ∈ executions after position.exit, closing.clientId = opening.clientId ∧
      closing.bindingId = opening.bindingId ∧ Live closing) ↔
      ∃ row, Binds row opening ∧ Reached after row ∧ TakesOrders position.exit row := by
  obtain ⟨entry, exit, closes⟩ := position
  cases closes with
  | straddle stamp opens closes client binding underlying =>
    exact straddle_closing_iff frame stamp closes client binding opened
  | condor opens closes underlying => exact condor_closing_iff frame underlying opened

/-- A binding has one row. -/
theorem row_unique {world : World β} {opening : Execution β} {row other : BindingRow}
    (binds : Binds row opening) (reached : Reached world row) (otherBinds : Binds other opening)
    (otherReached : Reached world other) : row = other := by
  apply List.inj_on_of_nodup_map world.keyed.bindings reached.1 otherReached.1
  rw [binds.1, binds.2, otherBinds.1, otherBinds.2]

/-- Over any changes between the two events a position is closed as it was opened exactly
if the flags of its binding at the close are those of a live binding when the entry was
live, and are not when it was on paper. -/
theorem closed_as_opened_iff (before : World β) (position : Position)
    (changes : List (Change β)) :
    ClosedAsOpened before (run apply before changes) position ↔
      Met before (run apply before changes) position := by
  have frame := frame_run before changes
  constructor
  · intro closed opening opened row binds reached
    have closing := live_closing_iff frame position opened
    constructor
    · intro takes
      by_contra paper
      obtain ⟨execution, executed, client, binding, live⟩ :=
        closing.mpr ⟨row, binds, reached, takes⟩
      exact closed.paper opening opened paper execution executed client binding live
    · intro live
      obtain ⟨other, otherBinds, otherReached, takes⟩ :=
        closing.mp (closed.live opening opened live row binds reached)
      rw [row_unique binds reached otherBinds otherReached]
      exact takes
  · intro met
    constructor
    · intro opening opened live row binds reached
      have takes := (met opening opened row binds reached).mpr live
      exact (live_closing_iff frame position opened).mpr ⟨row, binds, reached, takes⟩
    · intro opening opened paper closing executed client binding live
      obtain ⟨row, binds, reached, takes⟩ := (live_closing_iff frame position opened).mp
        ⟨closing, executed, client, binding, live⟩
      exact paper ((met opening opened row binds reached).mp takes)

/-! ## Three closes -/

/-- One account that runs both strategies on one broker. -/
def account (mode : String) : World String where
  registry := [{ clientId := "A" }]
  db :=
    { bindings := [⟨"A", "B1", true, true, some mode⟩]
      deployments :=
        [⟨"A", "B1", "sell_straddle", "NIFTY", true, some 1⟩,
          ⟨"A", "B1", "iron_condor", "NIFTY", true, some 1⟩] }
  brokers := fun _ _ => some "DELTA"
  keyed := ⟨List.nodup_singleton _, List.nodup_singleton _⟩

def straddleOrder (action : StraddleEvents.Action) : StraddleOrderEvent where
  action := action
  underlying := "NIFTY"
  atm := 23000
  ceStrike := 23000
  peStrike := 23000
  ceLtp := 100
  peLtp := 100
  lotMultiplier := 1
  lotSize := 75
  spot := 23010
  eventId := ⟨"NIFTY", if action = .entry then .entry else .exit, 2⟩
  clientId := "A"
  bindingId := "B1"

def condorOrder (action : IronCondor.Action) : ICOrderEvent where
  action := action
  underlying := "NIFTY"
  atm := 23000
  shortCeStrike := 23200
  shortPeStrike := 22800
  shortCeLtp := 80
  shortPeLtp := 70
  longCeStrike := 23300
  longPeStrike := 22700
  longCeLtp := 40
  longPeLtp := 30

def straddlePosition : Position :=
  ⟨.straddle (straddleOrder .entry), .straddle (straddleOrder .exit),
    .straddle ⟨by decide, by decide⟩ rfl rfl rfl rfl rfl⟩

def condorPosition : Position :=
  ⟨.condor (condorOrder .entry), .condor (condorOrder .exit), .condor rfl rfl rfl⟩

/-- A stopped deployment does not keep a live straddle from its close. -/
theorem stopped_closes_live :
    ClosedAsOpened (account "live")
      (run apply (account "live") [.setDeploymentRunning "A_B1_sell_straddle_NIFTY" "A" false])
      straddlePosition := by
  apply (closed_as_opened_iff (account "live") straddlePosition _).mpr
  intro opening opened row binds reached
  have entered : executions (account "live") straddlePosition.entry =
      [⟨"A", "B1", .live "DELTA"⟩] := by decide +kernel
  rw [entered, List.mem_singleton] at opened
  obtain rfl : row = ⟨"A", "B1", true, true, some "live"⟩ := List.mem_singleton.mp reached.1
  subst opened
  exact ⟨fun _ => ⟨"DELTA", rfl⟩, fun _ => by constructor <;> decide⟩

/-- A live straddle is not closed live after its binding was set to paper, nor a live
condor after its engine was switched off; a paper straddle is closed with real orders
after its binding was set to live. -/
theorem flags_decide_the_close :
    ¬ ClosedAsOpened (account "live")
      (run apply (account "live") [.setTradingMode "A" "B1" "paper"]) straddlePosition ∧
    ¬ ClosedAsOpened (account "live")
      (run apply (account "live") [.setEngineActive "A" "B1" false]) condorPosition ∧
    ¬ ClosedAsOpened (account "paper")
      (run apply (account "paper") [.setTradingMode "A" "B1" "live"]) straddlePosition := by
  refine ⟨?_, ?_, ?_⟩
  · intro closed
    have simulated : executions (run apply (account "live") [.setTradingMode "A" "B1" "paper"])
        straddlePosition.exit = [⟨"A", "B1", .paper (some "DELTA")⟩] := by decide
    obtain ⟨closing, executed, -, -, broker, live⟩ := closed.live ⟨"A", "B1", .live "DELTA"⟩
      (by decide +kernel) ⟨"DELTA", rfl⟩ ⟨"A", "B1", true, true, some "paper"⟩ ⟨rfl, rfl⟩
      ⟨by decide +kernel, rfl, rfl⟩
    rw [simulated, List.mem_singleton] at executed
    rw [executed] at live
    cases live
  · intro closed
    have nobody : executions (run apply (account "live") [.setEngineActive "A" "B1" false])
        condorPosition.exit = [] := by decide
    obtain ⟨closing, executed, -⟩ := closed.live ⟨"A", "B1", .live "DELTA"⟩
      (by decide +kernel) ⟨"DELTA", rfl⟩ ⟨"A", "B1", true, false, some "live"⟩ ⟨rfl, rfl⟩
      ⟨by decide +kernel, rfl, rfl⟩
    rw [nobody] at executed
    cases executed
  · intro closed
    exact closed.paper ⟨"A", "B1", .paper (some "DELTA")⟩ (by decide +kernel)
      (fun live => by obtain ⟨broker, same⟩ := live; cases same)
      ⟨"A", "B1", .live "DELTA"⟩ (by decide) rfl rfl ⟨"DELTA", rfl⟩

end OptionChain.PositionRouting
