import OptionChain.Deployments

/-!
# Which deployments the managers are told to run

The mark that the straddle query reads outlives a deletion, so a deployment that was
deleted while it ran is still listed, and one that is saved again runs at once. The
mark that the trap query reads is set by the save itself. What neither query selects
reads as the current expiry.
-/

namespace OptionChain.RunningDeployments

open BookManagers PastTime Deployments

variable {clients : String → Bool} {history : List Op} {d : Deployment}

/-- Started and not stopped since, but a deletion has not been followed by a new start
and a new save. -/
def LeftRunning (d : Deployment) (history : List Op) : Prop :=
  d.Started history ∧
    (Since d.deletes d.starts (d.life history) ∨ Since d.deletes d.saves (d.life history))

instance (d : Deployment) (history : List Op) : Decidable (LeftRunning d history) :=
  inferInstanceAs (Decidable (_ ∧ _))

/-- The expiry mode of a deployment, as the trap manager reads one. -/
def readMode (d : Deployment) (history : List Op) : String :=
  (trapSettings (d.listed history)).2

/-- No straddle was deleted while it ran, every deployed trap has been started and was
not deleted after that, and no deployment that runs has an expiry mode of its own. -/
structure Sound (clients : String → Bool) (history : List Op) : Prop where
  straddles : ∀ d : Deployment, d.strategyName = "sell_straddle" → clients d.clientId = true →
    ¬LeftRunning d history
  traps : ∀ d : Deployment, d.strategyName = "trap_scanner" → clients d.clientId = true →
    d.Deployed history → d.Started history ∧ ¬LeftRunning d history
  modes : ∀ d : Deployment, d.strategyName = "sell_straddle" ∨ d.strategyName = "trap_scanner" →
    clients d.clientId = true → d.Deployed history → d.Running history →
    readMode d history = "current"

theorem deletes_apart (op : Op) :
    (d.starts op = true → d.deletes op = false) ∧ (d.saves op = true → d.deletes op = false) := by
  cases op <;> simp [Deployment.starts, Deployment.deletes, Deployment.saves]

theorem running_iff :
    d.Running history ↔ d.Started history ∧ ¬Since d.deletes d.starts (d.life history) :=
  since_or (fun op => (deletes_apart op).1) (d.life history)

theorem deployed_iff (alive : d.life history ≠ []) :
    d.Deployed history ↔ ¬Since d.deletes d.saves (d.life history) := by
  obtain ⟨first, rest, shape, begins⟩ := fromFirst_begins alive
  have split : d.life history = first :: rest := shape
  rw [Deployment.Deployed, split]
  exact since_of_begins (fun op => (deletes_apart op).2) begins rest

theorem Deployed.alive (deployed : d.Deployed history) : d.life history ≠ [] := by
  obtain ⟨op, listed, -⟩ := deployed.happened
  exact List.ne_nil_of_mem listed

theorem not_leftRunning_iff (alive : d.life history ≠ []) :
    ¬LeftRunning d history ↔ (d.Started history → d.Deployed history ∧ d.Running history) := by
  rw [LeftRunning, deployed_iff alive, running_iff]
  tauto

/-- A deployment that nothing was saved for is in no state at all. -/
theorem not_leftRunning (unsaved : d.life history = []) : ¬LeftRunning d history := by
  rintro ⟨started, -⟩
  obtain ⟨op, listed, -⟩ := started.happened
  simp [unsaved] at listed

/-- No query selects the expiry mode. -/
theorem reading_selected (row : DeploymentRow) :
    reading (selected row) =
      ((row.clientId, row.bindingId, row.underlying), some row.lotMultiplier, "current") := by
  rw [reading, trapSettings_selected]
  rfl

theorem reading_listed (d : Deployment) (history : List Op) :
    reading (d.listed history) =
      ((d.clientId, d.bindingId, d.underlying), some (d.lots history), readMode d history) := rfl

section Answers

variable (clients history)

/-- The shape of both queries. -/
def answer (strategyName : String) (mark : DeploymentRow → Bool) : List Row :=
  ((tableAfter history).filter (fun row => clients row.clientId &&
    decide (row.strategyName = strategyName) && mark row)).map selected

variable {clients history} (strategyName : String) (mark : DeploymentRow → Bool)

theorem mem_answer (apart : Apart history) (row : Key × Option Rat × String) :
    row ∈ (answer clients history strategyName mark).map reading ↔
      ∃ d : Deployment, d.strategyName = strategyName ∧ clients d.clientId = true ∧
        d.life history ≠ [] ∧ mark (rowOf d history) = true ∧
        row = reading (selected (rowOf d history)) := by
  simp only [answer, List.map_map, List.mem_map, List.mem_filter, Bool.and_eq_true,
    decide_eq_true_eq, mem_tableAfter apart]
  constructor
  · rintro ⟨stored, ⟨⟨d, alive, rfl⟩, ⟨active, strategy⟩, marked⟩, rfl⟩
    exact ⟨d, strategy, active, alive, marked, rfl⟩
  · rintro ⟨d, strategy, active, alive, marked, rfl⟩
    exact ⟨_, ⟨⟨d, alive, rfl⟩, ⟨active, strategy⟩, marked⟩, rfl⟩

/-- The columns of a row tell the deployments of one strategy apart. -/
theorem same_deployment {other : Deployment} (strategy : d.strategyName = other.strategyName)
    (key : (d.clientId, d.bindingId, d.underlying) =
      (other.clientId, other.bindingId, other.underlying)) : d = other := by
  cases d
  cases other
  simp_all

theorem answer_once (apart : Apart history) :
    ((answer clients history strategyName mark).map
      (fun row => (row.clientId, row.bindingId, row.underlying))).Nodup := by
  rw [answer, List.map_map]
  apply List.Nodup.map_on
  · intro row listed other otherListed key
    simp only [List.mem_filter, Bool.and_eq_true, decide_eq_true_eq, mem_tableAfter apart]
      at listed otherListed
    obtain ⟨⟨d, -, rfl⟩, ⟨-, strategy⟩, -⟩ := listed
    obtain ⟨⟨e, -, rfl⟩, ⟨-, otherStrategy⟩, -⟩ := otherListed
    rw [same_deployment (strategy.trans otherStrategy.symm) key]
  · exact (List.Nodup.of_map _ (tableAfter_nodup history)).filter _

end Answers

/-- A query whose mark is set wherever a deployment should run answers exactly if the
mark is set nowhere else and the expiry modes that it leaves out are the current one. -/
theorem exact_iff (clients : String → Bool) (strategyName : String)
    (mark : DeploymentRow → Bool) (apart : Apart history)
    (implied : ∀ d : Deployment, d.Deployed history → d.Running history →
      mark (rowOf d history) = true) :
    Exact clients history strategyName (answer clients history strategyName mark) ↔
      ∀ d : Deployment, d.strategyName = strategyName → clients d.clientId = true →
        (d.life history ≠ [] → mark (rowOf d history) = true →
          d.Deployed history ∧ d.Running history) ∧
        (d.Deployed history → d.Running history → readMode d history = "current") := by
  constructor
  · intro exact d strategy active
    refine ⟨fun alive marked => ?_, fun deployed running => ?_⟩
    · have listed := (exact.listed _).mp ((mem_answer strategyName mark apart _).mpr
        ⟨d, strategy, active, alive, marked, rfl⟩)
      obtain ⟨other, otherStrategy, -, deployed, running, same⟩ := listed
      rw [reading_selected, reading_listed] at same
      have key := congrArg Prod.fst same
      rw [same_deployment (strategy.trans otherStrategy.symm) key]
      exact ⟨deployed, running⟩
    · have listed := (mem_answer strategyName mark apart _).mp ((exact.listed _).mpr
        ⟨d, strategy, active, deployed, running, rfl⟩)
      obtain ⟨other, -, -, -, -, same⟩ := listed
      rw [reading_selected, reading_listed] at same
      exact congrArg (fun row => row.2.2) same
  · intro sound
    refine ⟨fun row => ?_, answer_once strategyName mark apart⟩
    have agree : ∀ d : Deployment, d.strategyName = strategyName → clients d.clientId = true →
        d.Deployed history → d.Running history →
        reading (selected (rowOf d history)) = reading (d.listed history) := by
      intro d strategy active deployed running
      rw [reading_selected, reading_listed, (sound d strategy active).2 deployed running]
      rfl
    rw [mem_answer strategyName mark apart]
    constructor
    · rintro ⟨d, strategy, active, alive, marked, rfl⟩
      obtain ⟨deployed, running⟩ := (sound d strategy active).1 alive marked
      exact ⟨d, strategy, active, deployed, running, agree d strategy active deployed running⟩
    · rintro ⟨d, strategy, active, deployed, running, rfl⟩
      exact ⟨d, strategy, active, Deployed.alive deployed, implied d deployed running,
        (agree d strategy active deployed running).symm⟩

def straddle : Deployment := ⟨"c1", "b1", "sell_straddle", "NIFTY"⟩

def trap : Deployment := ⟨"c1", "b1", "trap_scanner", "NIFTY"⟩

/-- Both are deployed and started. -/
def bothStarted : List Op :=
  [.save straddle 1, .setRunning straddle.deployId "c1" true,
    .save trap 4, .setRunning trap.deployId "c1" true]

end OptionChain.RunningDeployments
