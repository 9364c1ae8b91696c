import Mathlib.Data.List.AList
import OptionChain.ClientProfiles
import OptionChain.RiskLedger
import OptionChain.Rounding

/-!
# The daily-loss gate

The risk manager keeps two accounts of a client. Fills and marks move the
position records, and with them equity and drawdown. The gate of the risk check
reads another number, the daily profit of the client's profile, and the execution
worker adds zero to that for every fill.

So the gate is closed in every run in which nobody else writes that profit: a
check halts a client at its limit only where no client has reached the limit.
-/

namespace OptionChain.RiskGate

open Broker hiding OrderFill
open ClientProfiles RiskLedger Runs

/-- The daily loss that the gate reads. -/
def dailyLossPct (client : ClientProfile) : Rat :=
  if client.risk.capital = 0 then 0 else -client.dailyPnl / client.risk.capital * 100

/-- `_ClientRiskState`. -/
structure ClientRiskState where
  capital : Rat
  positions : AList (fun _ : String => PositionRecord) := ∅
  peakEquity : Rat
  drawdownPct : Rat := 0
  slippage : List (String × Rat) := []
  liquidating : Bool := false

namespace ClientRiskState

/-- The record of a symbol, created on first use. -/
def position (state : ClientRiskState) (symbol : String) : PositionRecord :=
  (state.positions.lookup symbol).getD {}

def netMtm (state : ClientRiskState) : Rat :=
  (state.positions.entries.map (fun entry => entry.2.unrealisedPnl + entry.2.realisedPnl)).sum

def currentEquity (state : ClientRiskState) : Rat := state.capital + state.netMtm

/-- `update_drawdown`. -/
def updateDrawdown (state : ClientRiskState) : ClientRiskState :=
  let eq := state.currentEquity
  let peak := if state.peakEquity < eq then eq else state.peakEquity
  let dd := if state.capital = 0 then 0 else (peak - eq) / state.capital * 100
  { state with
    peakEquity := peak
    drawdownPct := Rounding.roundTo 3 (max dd 0) }

/-- The last five hundred slippages are kept. -/
def recordSlippage (state : ClientRiskState) (provider : String) (points : Rat) :
    ClientRiskState :=
  let slippage := state.slippage ++ [(provider, points)]
  { state with slippage := slippage.drop (slippage.length - 500) }

/-- The loss that the fills imply, in percent of the capital. -/
def lossPct (state : ClientRiskState) : Rat :=
  (state.capital - state.currentEquity) / state.capital * 100

end ClientRiskState

/-- The risk manager, the registry it shares with the workers, and the clients whose
halt it has published. -/
structure RiskManager where
  registry : ClientRegistry
  states : AList (fun _ : String => ClientRiskState) := ∅
  pendingSignals : AList (fun _ : String => String × Rat) := ∅
  halts : List String := []

namespace RiskManager

/-- Rewrite the profile of one client. -/
def onClient (manager : RiskManager) (clientId : String) (change : ClientProfile → ClientProfile) :
    RiskManager :=
  { manager with
    registry := manager.registry.map (fun client =>
      if client.clientId = clientId then change client else client) }

def setState (manager : RiskManager) (clientId : String) (state : ClientRiskState) :
    RiskManager :=
  { manager with states := manager.states.insert clientId state }

/-- `_sync_registry`. -/
def syncRegistry (manager : RiskManager) : RiskManager :=
  manager.registry.allActive.foldl (fun manager client =>
    if client.clientId ∈ manager.states then manager
    else manager.setState client.clientId
      { capital := client.risk.capital, peakEquity := client.risk.capital }) manager

/-- The slippage of a fill against the signal that its tag names. -/
def recordFillSlippage (manager : RiskManager) (state : ClientRiskState) (fill : OrderFill) :
    RiskManager × ClientRiskState :=
  match if fill.tag = "" then none else manager.pendingSignals.lookup fill.tag with
  | none => (manager, state)
  | some (provider, signalPrice) =>
      let slip :=
        if fill.side = .buy then fill.avgPrice - signalPrice else signalPrice - fill.avgPrice
      ({ manager with pendingSignals := manager.pendingSignals.erase fill.tag },
        state.recordSlippage provider slip)

/-- `_handle_fill`. -/
def handleFill (manager : RiskManager) (fill : OrderFill) : RiskManager :=
  if fill.status ≠ .complete then manager
  else
    let manager := manager.syncRegistry
    match manager.states.lookup fill.clientId with
    | none => manager
    | some state =>
        let record := (state.position fill.brokerSymbol).applyFill fill
        let state := { state with
          positions := state.positions.insert fill.brokerSymbol record }
        let (manager, state) := manager.recordFillSlippage state fill
        manager.setState fill.clientId state.updateDrawdown

/-- The halted profile and the published `CLIENT_RISK_HALT`. -/
def haltClient (manager : RiskManager) (clientId : String) : RiskManager :=
  { manager.onClient clientId ClientProfile.halt with halts := manager.halts ++ [clientId] }

/-- `_liquidate_client`. The mark against a second liquidation is taken back at the
end, but stays when the client is gone. -/
def liquidateClient (manager : RiskManager) (clientId : String) : RiskManager :=
  match manager.states.lookup clientId, manager.registry.get clientId with
  | some state, some _ => if state.liquidating then manager else manager.haltClient clientId
  | some state, none => manager.setState clientId { state with liquidating := true }
  | none, some _ => manager.haltClient clientId
  | none, none => manager

/-- The body of the check loop, for one client. -/
def checkClient (manager : RiskManager) (clientId : String) : RiskManager :=
  match manager.states.lookup clientId, manager.registry.get clientId with
  | some state, some client =>
      let manager := manager.setState clientId state.updateDrawdown
      if client.risk.maxDailyLossPct ≤ dailyLossPct client ∧ state.liquidating = false then
        manager.liquidateClient clientId
      else manager
  | _, _ => manager

/-- `_check_all_clients`. -/
def checkAllClients (manager : RiskManager) : RiskManager :=
  let manager := manager.syncRegistry
  manager.states.keys.foldl checkClient manager

/-- A mark of the reconciliation loop; zero is no mark. -/
def reconcileMark (manager : RiskManager) (clientId symbol : String) (mark : Rat) : RiskManager :=
  match manager.states.lookup clientId with
  | none => manager
  | some state =>
      if symbol = "" ∨ mark = 0 then manager
      else manager.setState clientId { state with
        positions := state.positions.insert symbol ((state.position symbol).updateMark mark) }

/-- The clients that a check halts. -/
def newlyHalted (manager : RiskManager) : List String :=
  manager.checkAllClients.halts.drop manager.halts.length

end RiskManager

/-- What happens around the manager: a fill arrives, a worker records the trade it
has placed, reconciliation marks a symbol, the loop checks. -/
inductive Event where
  | fill (fill : OrderFill)
  | workerTrade (clientId : String)
  | mark (clientId symbol : String) (mark : Rat)
  | check
deriving DecidableEq

/-- `ClientExecutionWorker._place` ends with `record_trade(0.0)`. -/
def step (manager : RiskManager) : Event → RiskManager
  | .fill fill => manager.handleFill fill
  | .workerTrade clientId => manager.onClient clientId (·.recordTrade 0)
  | .mark clientId symbol mark => manager.reconcileMark clientId symbol mark
  | .check => manager.checkAllClients

/-- The clients of a state, with their profiles, whose loss has reached the limit. -/
def Reached (manager : RiskManager) (clientId : String) : Prop :=
  ∃ client ∈ manager.registry.get clientId, ∃ state ∈ manager.syncRegistry.states.lookup clientId,
    client.risk.maxDailyLossPct ≤ state.lossPct

instance (manager : RiskManager) (clientId : String) : Decidable (Reached manager clientId) :=
  inferInstanceAs (Decidable (∃ client ∈ manager.registry.get clientId, ∃ state ∈ _, _ ≤ _))

/-- A check halts every client whose loss has reached its limit. -/
def Fires (manager : RiskManager) (event : Event) : Prop :=
  event = .check → ∀ clientId, Reached manager clientId → clientId ∈ manager.newlyHalted

/-- A check finds no client at its limit. -/
def Below (manager : RiskManager) (event : Event) : Prop :=
  event = .check → ∀ client ∈ manager.registry, ¬ Reached manager client.clientId

instance (manager : RiskManager) (event : Event) : Decidable (Below manager event) :=
  inferInstanceAs (Decidable (_ → _))

/-- The profiles have passed their validation, and their daily profit is what it was
at the start of the day. -/
def Untouched (manager : RiskManager) : Prop :=
  ∀ client ∈ manager.registry, client.risk.validate ∧ client.dailyPnl = 0

instance (manager : RiskManager) : Decidable (Untouched manager) :=
  inferInstanceAs (Decidable (∀ client ∈ manager.registry, _))

/-- What leaves the gate closed: the same registry and no further halt. -/
structure Quiet (manager after : RiskManager) : Prop where
  registry : after.registry = manager.registry
  halts : after.halts = manager.halts

section Frames

variable (manager : RiskManager)

theorem quiet_refl : Quiet manager manager := ⟨rfl, rfl⟩

theorem Quiet.trans {first second third : RiskManager} (before : Quiet first second)
    (after : Quiet second third) : Quiet first third :=
  ⟨after.registry.trans before.registry, after.halts.trans before.halts⟩

theorem setState_quiet (clientId : String) (state : ClientRiskState) :
    Quiet manager (manager.setState clientId state) := ⟨rfl, rfl⟩

/-- A loop of quiet steps is quiet. -/
theorem foldl_quiet {α : Type} (body : RiskManager → α → RiskManager) (items : List α)
    (quiet : ∀ manager item, Quiet manager (body manager item)) :
    Quiet manager (items.foldl body manager) := by
  induction items generalizing manager with
  | nil => exact quiet_refl manager
  | cons item rest inductionHypothesis =>
    exact (quiet manager item).trans (inductionHypothesis (body manager item))

theorem syncRegistry_quiet : Quiet manager manager.syncRegistry := by
  apply foldl_quiet
  intro manager client
  split
  · exact quiet_refl manager
  · exact setState_quiet manager _ _

theorem recordFillSlippage_quiet (state : ClientRiskState) (fill : OrderFill) :
    Quiet manager (manager.recordFillSlippage state fill).1 := by
  unfold RiskManager.recordFillSlippage
  split
  · exact quiet_refl manager
  · exact ⟨rfl, rfl⟩

theorem handleFill_quiet (fill : OrderFill) : Quiet manager (manager.handleFill fill) := by
  unfold RiskManager.handleFill
  split
  · exact quiet_refl manager
  · refine (syncRegistry_quiet manager).trans ?_
    dsimp only
    split
    · exact quiet_refl _
    · exact (recordFillSlippage_quiet _ _ fill).trans (setState_quiet _ _ _)

theorem reconcileMark_quiet (clientId symbol : String) (mark : Rat) :
    Quiet manager (manager.reconcileMark clientId symbol mark) := by
  unfold RiskManager.reconcileMark
  split
  · exact quiet_refl manager
  · split
    · exact quiet_refl manager
    · exact setState_quiet manager _ _

end Frames

/-- The gate reads zero from an untouched profile, which is below every valid limit. -/
theorem gate_closed (client : ClientProfile) (valid : client.risk.validate)
    (untouched : client.dailyPnl = 0) : ¬ client.risk.maxDailyLossPct ≤ dailyLossPct client := by
  have zero : dailyLossPct client = 0 := by
    unfold dailyLossPct
    split <;> simp [untouched]
  rw [zero]
  exact not_le.mpr valid.1

theorem checkClient_quiet (manager : RiskManager) (untouched : Untouched manager)
    (clientId : String) : Quiet manager (manager.checkClient clientId) := by
  unfold RiskManager.checkClient
  split
  · rename_i state client _ found
    obtain ⟨valid, profit⟩ := untouched client (ClientRegistry.get_mem found).1
    have closed := gate_closed client valid profit
    rw [if_neg (fun gate => closed gate.1)]
    exact setState_quiet manager _ _
  · exact quiet_refl manager

theorem Quiet.untouched {manager after : RiskManager} (quiet : Quiet manager after)
    (untouched : Untouched manager) : Untouched after := by
  unfold Untouched
  rw [quiet.registry]
  exact untouched

/-- A check of untouched profiles halts nobody. -/
theorem checkAllClients_quiet (manager : RiskManager) (untouched : Untouched manager) :
    Quiet manager manager.checkAllClients := by
  have loop : ∀ (clientIds : List String) (manager : RiskManager), Untouched manager →
      Quiet manager (clientIds.foldl RiskManager.checkClient manager) := by
    intro clientIds
    induction clientIds with
    | nil => exact fun manager _ => quiet_refl manager
    | cons clientId rest inductionHypothesis =>
      intro manager untouched
      have first := checkClient_quiet manager untouched clientId
      exact first.trans (inductionHypothesis _ (first.untouched untouched))
  have synced := syncRegistry_quiet manager
  exact synced.trans (loop _ _ (synced.untouched untouched))

theorem newlyHalted_nil (manager : RiskManager) (untouched : Untouched manager) :
    manager.newlyHalted = [] := by
  simp [RiskManager.newlyHalted, (checkAllClients_quiet manager untouched).halts]

/-- Every event keeps the profiles untouched: a worker's trade adds zero. -/
theorem step_untouched (manager : RiskManager) (event : Event) (untouched : Untouched manager) :
    Untouched (step manager event) := by
  cases event with
  | fill fill => exact (handleFill_quiet manager fill).untouched untouched
  | workerTrade clientId =>
    intro client inside
    obtain ⟨old, there, same⟩ := List.mem_map.mp inside
    obtain ⟨valid, profit⟩ := untouched old there
    subst same
    split
    · exact ⟨valid, by simp [ClientProfile.recordTrade, profit]⟩
    · exact ⟨valid, profit⟩
  | mark clientId symbol mark =>
    exact (reconcileMark_quiet manager clientId symbol mark).untouched untouched
  | check => exact (checkAllClients_quiet manager untouched).untouched untouched

/-- At an untouched profile the gate does its duty only where there is none. -/
theorem fires_iff_below (manager : RiskManager) (event : Event) (untouched : Untouched manager) :
    Fires manager event ↔ Below manager event := by
  unfold Fires Below
  rw [newlyHalted_nil manager untouched]
  constructor
  · intro fires checked client _ reached
    exact absurd (fires checked client.clientId reached) List.not_mem_nil
  · intro below checked clientId reached
    obtain ⟨client, found, atLimit⟩ := reached
    obtain ⟨inside, same⟩ := ClientRegistry.get_mem found
    exact absurd (same ▸ ⟨client, found, atLimit⟩) (below checked client inside)

/-- In every run whose daily profits only the workers touch, the checks halt every
client at its limit exactly when no check finds one there. -/
theorem daily_loss_gate_iff (manager : RiskManager) (untouched : Untouched manager)
    (events : List Event) :
    Along step Fires manager events ↔ Along step Below manager events :=
  along_congr step (fun manager event untouched => step_untouched manager event untouched)
    fires_iff_below manager events untouched

/-- One client with a capital of a thousand and a limit of three percent. -/
def oneClient : RiskManager where
  registry := [{ clientId := "cli", risk := { capital := 1000, maxDailyLossPct := 3 } }]

def fillOf (side : OrderSide) (price : Rat) : OrderFill :=
  { qty := 1, avgPrice := price, status := .complete, brokerSymbol := "X", side := side,
    clientId := "cli" }

/-- A round trip that loses forty, four percent of the capital. -/
def losingDay : List Event :=
  [.fill (fillOf .buy 100), .workerTrade "cli", .fill (fillOf .sell 60), .workerTrade "cli", .check]

/-- A round trip that gains is left alone. -/
theorem gate_rests_on_gain :
    Untouched oneClient ∧
      Along step Fires oneClient [.fill (fillOf .buy 100), .fill (fillOf .sell 140), .check] := by
  have untouched : Untouched oneClient := by decide +kernel
  exact ⟨untouched, (daily_loss_gate_iff oneClient untouched _).mpr (by decide +kernel)⟩

/-- The losing day ends with a check that halts nobody. -/
theorem gate_misses_losing_day : Untouched oneClient ∧ ¬ Along step Fires oneClient losingDay := by
  refine ⟨by decide, ?_⟩
  rintro ⟨-, -, -, -, fires, -⟩
  have halted := fires rfl "cli" (by decide +kernel)
  revert halted
  decide +kernel

end OptionChain.RiskGate
