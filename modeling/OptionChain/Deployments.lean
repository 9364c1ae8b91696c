import OptionChain.BookManagers
import OptionChain.PastTime

/-!
# The deployment table

`ClientDB` keeps one row for each deployment id. Saving inserts a row or revives it,
deleting only marks it, and a second mark tells a started deployment from a stopped
one. The straddle query reads the second mark alone, the trap query the first, and
neither selects the expiry mode.

What the queries should answer is said of the history of a deployment, which begins
with its first save.
-/

namespace OptionChain.Deployments

open BookManagers PastTime

/-- What a deployment is. -/
structure Deployment where
  clientId : String
  bindingId : String
  strategyName : String
  underlying : String
deriving DecidableEq

/-- `deploy_id`. -/
def Deployment.deployId (d : Deployment) : String :=
  d.clientId ++ "_" ++ d.bindingId ++ "_" ++ d.strategyName ++ "_" ++ d.underlying

/-- The columns that the two queries read, and the key. -/
structure DeploymentRow where
  deployId : String
  clientId : String
  bindingId : String
  strategyName : String
  underlying : String
  lotMultiplier : Rat
  isActive : Bool
  isRunning : Bool
  expiryMode : String
deriving DecidableEq

inductive Op where
  | save (d : Deployment) (lotMultiplier : Rat)
  | delete (deployId clientId : String)
  | setExpiryMode (deployId clientId expiryMode : String)
  | setRunning (deployId clientId : String) (running : Bool)
  | stopAll (clientId : String)
deriving DecidableEq

/-- `INSERT … VALUES`, with the defaults of the other columns. -/
def insertedRow (d : Deployment) (lotMultiplier : Rat) : DeploymentRow where
  deployId := d.deployId
  clientId := d.clientId
  bindingId := d.bindingId
  strategyName := d.strategyName
  underlying := d.underlying
  lotMultiplier := lotMultiplier
  isActive := true
  isRunning := false
  expiryMode := "current"

/-- The `UPDATE … WHERE` of an operation, on one row. -/
def Op.update (row : DeploymentRow) : Op → DeploymentRow
  | .save d lotMultiplier =>
      if row.deployId = d.deployId then
        { row with underlying := d.underlying, lotMultiplier := lotMultiplier, isActive := true }
      else row
  | .delete deployId clientId =>
      if row.deployId = deployId ∧ row.clientId = clientId then { row with isActive := false }
      else row
  | .setExpiryMode deployId clientId expiryMode =>
      if row.deployId = deployId ∧ row.clientId = clientId then
        { row with expiryMode := expiryMode }
      else row
  | .setRunning deployId clientId running =>
      if row.deployId = deployId ∧ row.clientId = clientId then { row with isRunning := running }
      else row
  | .stopAll clientId => if row.clientId = clientId then { row with isRunning := false } else row

/-- One statement. Only a save whose id is new inserts a row. -/
def execute (table : List DeploymentRow) (op : Op) : List DeploymentRow :=
  let updated := table.map (fun row => op.update row)
  match op with
  | .save d lotMultiplier =>
      if table.any (fun row => decide (row.deployId = d.deployId)) then updated
      else table ++ [insertedRow d lotMultiplier]
  | .delete _ _ | .setExpiryMode _ _ _ | .setRunning _ _ _ | .stopAll _ => updated

/-- The table after a history of statements. -/
def tableAfter (history : List Op) : List DeploymentRow := history.foldl execute []

/-- The columns a query selects; the expiry mode is not among them. -/
def selected (row : DeploymentRow) : Row where
  clientId := row.clientId
  bindingId := row.bindingId
  underlying := row.underlying
  lotMultiplier := some row.lotMultiplier

section Queries

variable (clients : String → Bool) (table : List DeploymentRow)

/-- The active clients that exist are given as a predicate. -/
def getRunningStraddleDeploymentsSync : List Row :=
  (table.filter (fun row => clients row.clientId &&
    decide (row.strategyName = "sell_straddle") && row.isRunning)).map selected

def getRunningTrapDeploymentsSync : List Row :=
  (table.filter (fun row => clients row.clientId &&
    decide (row.strategyName = "trap_scanner") && row.isActive)).map selected

end Queries

/-- What the query does not select reads as the current expiry. -/
theorem trapSettings_selected (row : DeploymentRow) :
    trapSettings (selected row) = (trapLots (selected row), "current") := by
  have absent : (trapSettings (selected row)).2 = strip "current" := rfl
  have kept : strip "current" = "current" := by decide
  rw [Prod.ext_iff]
  exact ⟨rfl, absent.trans kept⟩

/-! ## What the history says -/

namespace Deployment

variable (d : Deployment)

def saves : Op → Bool
  | .save saved _ => decide (saved = d)
  | .delete _ _ | .setExpiryMode _ _ _ | .setRunning _ _ _ | .stopAll _ => false

def deletes : Op → Bool
  | .delete deployId clientId => decide (deployId = d.deployId ∧ clientId = d.clientId)
  | .save _ _ | .setExpiryMode _ _ _ | .setRunning _ _ _ | .stopAll _ => false

def starts : Op → Bool
  | .setRunning deployId clientId running =>
      decide (deployId = d.deployId ∧ clientId = d.clientId) && running
  | .save _ _ | .delete _ _ | .setExpiryMode _ _ _ | .stopAll _ => false

def stops : Op → Bool
  | .setRunning deployId clientId running =>
      decide (deployId = d.deployId ∧ clientId = d.clientId) && !running
  | .stopAll clientId => decide (clientId = d.clientId)
  | .save _ _ | .delete _ _ | .setExpiryMode _ _ _ => false

def savedLots : Op → Option Rat
  | .save saved lotMultiplier => if saved = d then some lotMultiplier else none
  | .delete _ _ | .setExpiryMode _ _ _ | .setRunning _ _ _ | .stopAll _ => none

def storedMode : Op → Option String
  | .setExpiryMode deployId clientId expiryMode =>
      if deployId = d.deployId ∧ clientId = d.clientId then some expiryMode else none
  | .save _ _ | .delete _ _ | .setRunning _ _ _ | .stopAll _ => none

variable (history : List Op)

/-- Nothing before the first save of a deployment is about it. -/
def life : List Op := fromFirst d.saves history

/-- Saved after any deletion. -/
def Deployed : Prop := Since d.saves d.deletes (d.life history)

/-- Started since the last stop or deletion. -/
def Running : Prop :=
  Since d.starts (fun op => d.stops op || d.deletes op) (d.life history)

def lots : Rat := (latest d.savedLots (d.life history)).getD 0

def mode : String := (latest d.storedMode (d.life history)).getD "current"

/-- The row that a query should give. -/
def listed : Row where
  clientId := d.clientId
  bindingId := d.bindingId
  underlying := d.underlying
  lotMultiplier := some (d.lots history)
  expiryMode := d.mode history

end Deployment

/-- What the managers read of a row. A missing expiry mode reads as the current one. -/
def reading (row : Row) : Key × Option Rat × String :=
  ((row.clientId, row.bindingId, row.underlying), row.lotMultiplier, (trapSettings row).2)

/-- An answer lists the deployments of a strategy that are deployed and running, each
once and as it is now. -/
structure Exact (clients : String → Bool) (history : List Op) (strategyName : String)
    (answer : List Row) : Prop where
  listed : ∀ row, row ∈ answer.map reading ↔ ∃ d : Deployment, d.strategyName = strategyName ∧
    clients d.clientId = true ∧ d.Deployed history ∧ d.Running history ∧
    row = reading (d.listed history)
  once : (answer.map (fun row => (row.clientId, row.bindingId, row.underlying))).Nodup

/-- No two deployments that were saved share an id. -/
def Apart (history : List Op) : Prop :=
  ∀ d lots, .save d lots ∈ history → ∀ other more, .save other more ∈ history →
    d.deployId = other.deployId → d = other

/-! ## The table and the history -/

/-- Started, and not stopped since. Deletions do not count. -/
def Deployment.Started (d : Deployment) (history : List Op) : Prop :=
  Since d.starts d.stops (d.life history)

instance (d : Deployment) (history : List Op) : Decidable (d.Deployed history) :=
  inferInstanceAs (Decidable (Since _ _ _))

instance (d : Deployment) (history : List Op) : Decidable (d.Running history) :=
  inferInstanceAs (Decidable (Since _ _ _))

instance (d : Deployment) (history : List Op) : Decidable (d.Started history) :=
  inferInstanceAs (Decidable (Since _ _ _))

/-- The row of a deployment, by its history. -/
def rowOf (d : Deployment) (history : List Op) : DeploymentRow where
  deployId := d.deployId
  clientId := d.clientId
  bindingId := d.bindingId
  strategyName := d.strategyName
  underlying := d.underlying
  lotMultiplier := d.lots history
  isActive := decide (d.Deployed history)
  isRunning := decide (d.Started history)
  expiryMode := d.mode history

section Table

variable {d : Deployment} {history : List Op}

@[simp] theorem tableAfter_nil : tableAfter [] = [] := rfl

theorem tableAfter_concat (history : List Op) (op : Op) :
    tableAfter (history ++ [op]) = execute (tableAfter history) op := by
  simp [tableAfter]

theorem saves_iff {op : Op} : d.saves op = true ↔ ∃ lots, op = .save d lots := by
  cases op <;> simp [Deployment.saves]

theorem life_nonempty : d.life history ≠ [] ↔ ∃ lots, .save d lots ∈ history := by
  rw [Deployment.life, Ne, fromFirst_eq_nil_iff]
  push Not
  constructor
  · rintro ⟨op, listed, saves⟩
    obtain ⟨lots, rfl⟩ := saves_iff.mp (by simpa using saves)
    exact ⟨lots, listed⟩
  · rintro ⟨lots, listed⟩
    exact ⟨_, listed, by simp [Deployment.saves]⟩

theorem life_concat (alive : d.life history ≠ []) (op : Op) :
    d.life (history ++ [op]) = d.life history ++ [op] := by
  unfold Deployment.life at alive ⊢
  rw [fromFirst_concat, if_neg alive]

theorem life_first (unsaved : d.life history = []) (lots : Rat) :
    d.life (history ++ [.save d lots]) = [.save d lots] := by
  have saves : d.saves (.save d lots) = true := by simp [Deployment.saves]
  unfold Deployment.life at unsaved ⊢
  rw [fromFirst_concat, if_pos unsaved, if_pos saves]

theorem Apart.earlier {op : Op} (apart : Apart (history ++ [op])) : Apart history :=
  fun d lots saved other more otherSaved =>
    apart d lots (by simp [saved]) other more (by simp [otherSaved])

/-- What a statement can do to a table: update every row, and insert one whose id is
new. -/
theorem mem_execute {table : List DeploymentRow} {op : Op} {row : DeploymentRow} :
    row ∈ execute table op ↔ (∃ old ∈ table, row = op.update old) ∨
      ∃ d lots, op = .save d lots ∧ (∀ old ∈ table, old.deployId ≠ d.deployId) ∧
        row = insertedRow d lots := by
  cases op with
  | save d lots =>
    simp only [execute, List.any_eq_true, decide_eq_true_eq]
    split
    · rename_i conflict
      obtain ⟨old, stored, same⟩ := conflict
      constructor
      · intro listed
        obtain ⟨before, kept, rfl⟩ := List.mem_map.mp listed
        exact .inl ⟨before, kept, rfl⟩
      · rintro (⟨before, kept, rfl⟩ | ⟨other, more, found, fresh, rfl⟩)
        · exact List.mem_map_of_mem kept
        · cases found
          exact absurd same (fresh old stored)
    · rename_i conflict
      have fresh : ∀ old ∈ table, old.deployId ≠ d.deployId :=
        fun old stored same => conflict ⟨old, stored, same⟩
      have still : ∀ old ∈ table, (Op.save d lots).update old = old :=
        fun old stored => if_neg (fresh old stored)
      rw [List.mem_append, List.mem_singleton]
      apply or_congr
      · constructor
        · exact fun stored => ⟨row, stored, (still row stored).symm⟩
        · rintro ⟨old, stored, rfl⟩
          rwa [still old stored]
      · constructor
        · exact fun inserted => ⟨d, lots, rfl, fresh, inserted⟩
        · rintro ⟨other, more, found, -, rfl⟩
          cases found
          rfl
  | delete deployId clientId => simp [execute, eq_comm]
  | setExpiryMode deployId clientId expiryMode => simp [execute, eq_comm]
  | setRunning deployId clientId running => simp [execute, eq_comm]
  | stopAll clientId => simp [execute, eq_comm]

theorem deployed_concat (alive : d.life history ≠ []) (op : Op) :
    d.Deployed (history ++ [op]) ↔
      d.saves op = true ∨ (d.deletes op = false ∧ d.Deployed history) := by
  rw [Deployment.Deployed, life_concat alive, since_concat]
  rfl

theorem started_concat (alive : d.life history ≠ []) (op : Op) :
    d.Started (history ++ [op]) ↔
      d.starts op = true ∨ (d.stops op = false ∧ d.Started history) := by
  rw [Deployment.Started, life_concat alive, since_concat]
  rfl

theorem lots_concat (alive : d.life history ≠ []) (op : Op) :
    d.lots (history ++ [op]) = (d.savedLots op).getD (d.lots history) := by
  rw [Deployment.lots, life_concat alive, latest_concat]
  cases d.savedLots op <;> rfl

theorem mode_concat (alive : d.life history ≠ []) (op : Op) :
    d.mode (history ++ [op]) = (d.storedMode op).getD (d.mode history) := by
  rw [Deployment.mode, life_concat alive, latest_concat]
  cases d.storedMode op <;> rfl

theorem rowOf_concat (alive : d.life history ≠ []) (op : Op) :
    rowOf d (history ++ [op]) = { rowOf d history with
      lotMultiplier := (d.savedLots op).getD (d.lots history)
      isActive := d.saves op || (!d.deletes op && decide (d.Deployed history))
      isRunning := d.starts op || (!d.stops op && decide (d.Started history))
      expiryMode := (d.storedMode op).getD (d.mode history) } := by
  simp only [rowOf, lots_concat alive, mode_concat alive]
  congr 1
  · rw [Bool.eq_iff_iff]
    simp [deployed_concat alive]
  · rw [Bool.eq_iff_iff]
    simp [started_concat alive]

/-- A call that is not about a deployment leaves its row. -/
theorem rowOf_silent (alive : d.life history ≠ []) {op : Op} (saves : d.saves op = false)
    (deletes : d.deletes op = false) (starts : d.starts op = false) (stops : d.stops op = false)
    (lots : d.savedLots op = none) (mode : d.storedMode op = none) :
    rowOf d (history ++ [op]) = rowOf d history := by
  rw [rowOf_concat alive, saves, deletes, starts, stops, lots, mode]
  simp [rowOf]

/-- A row follows the history of its deployment. -/
theorem update_rowOf (alive : d.life history ≠ []) (op : Op)
    (apart : ∀ other lots, op = .save other lots → d.deployId = other.deployId → other = d) :
    op.update (rowOf d history) = rowOf d (history ++ [op]) := by
  cases op with
  | save other more =>
    by_cases same : d.deployId = other.deployId
    · obtain rfl := apart other more rfl same
      rw [rowOf_concat alive]
      simp [rowOf, Op.update, Deployment.saves, Deployment.starts, Deployment.stops,
        Deployment.savedLots, Deployment.storedMode]
    · have differs : other ≠ d := fun equal => same (by rw [equal])
      rw [rowOf_silent alive (by simp [Deployment.saves, differs]) rfl rfl rfl
        (by simp [Deployment.savedLots, differs]) rfl]
      exact if_neg same
  | delete deployId clientId =>
    by_cases here : d.deployId = deployId ∧ d.clientId = clientId
    · obtain ⟨rfl, rfl⟩ := here
      rw [rowOf_concat alive]
      simp [rowOf, Op.update, Deployment.saves, Deployment.deletes, Deployment.starts,
        Deployment.stops, Deployment.savedLots, Deployment.storedMode]
    · have elsewhere : ¬(deployId = d.deployId ∧ clientId = d.clientId) :=
        fun equal => here ⟨equal.1.symm, equal.2.symm⟩
      have kept : d.deletes (.delete deployId clientId) = false := decide_eq_false elsewhere
      rw [rowOf_silent alive rfl kept rfl rfl rfl rfl]
      exact if_neg here
  | setExpiryMode deployId clientId expiryMode =>
    by_cases here : d.deployId = deployId ∧ d.clientId = clientId
    · obtain ⟨rfl, rfl⟩ := here
      rw [rowOf_concat alive]
      simp [rowOf, Op.update, Deployment.saves, Deployment.deletes, Deployment.starts,
        Deployment.stops, Deployment.savedLots, Deployment.storedMode]
    · have elsewhere : ¬(deployId = d.deployId ∧ clientId = d.clientId) :=
        fun equal => here ⟨equal.1.symm, equal.2.symm⟩
      have kept : d.storedMode (.setExpiryMode deployId clientId expiryMode) = none :=
        if_neg elsewhere
      rw [rowOf_silent alive rfl rfl rfl rfl rfl kept]
      exact if_neg here
  | setRunning deployId clientId running =>
    by_cases here : d.deployId = deployId ∧ d.clientId = clientId
    · obtain ⟨rfl, rfl⟩ := here
      rw [rowOf_concat alive]
      cases running <;> simp [rowOf, Op.update, Deployment.saves, Deployment.deletes,
        Deployment.starts, Deployment.stops, Deployment.savedLots, Deployment.storedMode]
    · have elsewhere : ¬(deployId = d.deployId ∧ clientId = d.clientId) :=
        fun equal => here ⟨equal.1.symm, equal.2.symm⟩
      rw [rowOf_silent alive rfl rfl (by simp [Deployment.starts, -not_and, elsewhere])
        (by simp [Deployment.stops, -not_and, elsewhere]) rfl rfl]
      exact if_neg here
  | stopAll clientId =>
    by_cases here : d.clientId = clientId
    · obtain rfl := here
      rw [rowOf_concat alive]
      simp [rowOf, Op.update, Deployment.saves, Deployment.deletes, Deployment.starts,
        Deployment.stops, Deployment.savedLots, Deployment.storedMode]
    · have elsewhere : clientId ≠ d.clientId := fun equal => here equal.symm
      rw [rowOf_silent alive rfl rfl rfl (by simp [Deployment.stops, elsewhere]) rfl rfl]
      exact if_neg here

theorem rowOf_first (unsaved : d.life history = []) (lots : Rat) :
    rowOf d (history ++ [.save d lots]) = insertedRow d lots := by
  simp only [rowOf, Deployment.Deployed, Deployment.Started, Deployment.lots, Deployment.mode,
    life_first unsaved]
  simp [insertedRow, since_iff_flag, latest, Deployment.saves, Deployment.starts,
    Deployment.savedLots, Deployment.storedMode]

/-- The table holds one row for each deployment that has been saved, as its history has
it. By induction from the end of the history. -/
theorem mem_tableAfter (apart : Apart history) (row : DeploymentRow) :
    row ∈ tableAfter history ↔ ∃ d : Deployment, d.life history ≠ [] ∧ row = rowOf d history := by
  induction history using List.reverseRecOn generalizing row with
  | nil => simp [Deployment.life, fromFirst]
  | append_singleton earlier op inductionHypothesis =>
    have stored := inductionHypothesis apart.earlier
    have follows : ∀ d : Deployment, d.life earlier ≠ [] →
        op.update (rowOf d earlier) = rowOf d (earlier ++ [op]) := by
      intro d alive
      obtain ⟨lots, saved⟩ := life_nonempty.mp alive
      apply update_rowOf alive
      rintro other more rfl same
      exact (apart d lots (by simp [saved]) other more (by simp) same).symm
    rw [tableAfter_concat, mem_execute]
    constructor
    · rintro (⟨old, kept, rfl⟩ | ⟨d, lots, rfl, fresh, rfl⟩)
      · obtain ⟨d, alive, rfl⟩ := (stored old).mp kept
        refine ⟨d, ?_, follows d alive⟩
        rw [life_concat alive]
        simp
      · have unsaved : d.life earlier = [] := by
          by_contra alive
          exact fresh _ ((stored _).mpr ⟨d, alive, rfl⟩) rfl
        exact ⟨d, by simp [life_first unsaved], (rowOf_first unsaved lots).symm⟩
    · rintro ⟨d, alive, rfl⟩
      by_cases unsaved : d.life earlier = []
      · obtain ⟨lots, saved⟩ := life_nonempty.mp alive
        have first : op = .save d lots := by
          rcases List.mem_append.mp saved with before | now
          · exact absurd unsaved (life_nonempty.mpr ⟨lots, before⟩)
          · exact (List.mem_singleton.mp now).symm
        subst first
        refine .inr ⟨d, lots, rfl, ?_, rowOf_first unsaved lots⟩
        intro old kept same
        obtain ⟨other, otherAlive, rfl⟩ := (stored old).mp kept
        obtain ⟨more, otherSaved⟩ := life_nonempty.mp otherAlive
        have equal := apart other more (by simp [otherSaved]) d lots (by simp) same
        exact otherAlive (equal ▸ unsaved)
      · exact .inl ⟨_, (stored _).mpr ⟨d, unsaved, rfl⟩, (follows d unsaved).symm⟩

theorem update_deployId (op : Op) (row : DeploymentRow) :
    (op.update row).deployId = row.deployId := by
  cases op <;> simp only [Op.update] <;> split <;> rfl

/-- The id is a key. -/
theorem tableAfter_nodup (history : List Op) :
    ((tableAfter history).map (·.deployId)).Nodup := by
  induction history using List.reverseRecOn with
  | nil => simp
  | append_singleton earlier op inductionHypothesis =>
    rw [tableAfter_concat]
    have updated : (((tableAfter earlier).map (fun row => op.update row)).map
        (·.deployId)).Nodup := by
      rw [List.map_map]
      simpa only [Function.comp_def, update_deployId] using inductionHypothesis
    cases op with
    | save d lots =>
      simp only [execute]
      split
      · exact updated
      · rename_i conflict
        rw [List.map_append]
        apply List.Nodup.append inductionHypothesis (by simp)
        intro id stored new
        obtain ⟨row, kept, rfl⟩ := List.mem_map.mp stored
        exact conflict (List.any_eq_true.mpr ⟨row, kept, by simpa [insertedRow] using new⟩)
    | delete deployId clientId => exact updated
    | setExpiryMode deployId clientId expiryMode => exact updated
    | setRunning deployId clientId running => exact updated
    | stopAll clientId => exact updated

end Table

end OptionChain.Deployments
