import OptionChain.TrapBooks

/-!
# Books that are equivalent to spawned ones

A book should run with the lots and the expiry mode of its deployment, and with what is
set on the manager. A pass reaches this for what it spawns, up to the mode that its
query leaves out. It loses the wiring of every book that it re-spawns, and sets a mode
that was applied to a running book back.
-/

namespace OptionChain.TrapWiring

open Runs KeyedLoops BookManagers Deployments TrapBooks

variable {ρ φ : Type}

/-- The database, the manager, and whether a deployment has changed since the last pass
that could read it. -/
structure System (ρ φ : Type) where
  table : List DeploymentRow := []
  clients : String → Bool := fun _ => false
  manager : TrapBookManager ρ φ := {}
  changed : Bool := true

inductive Event (ρ φ : Type) where
  | database (op : Op)
  | client (clientId : String) (active : Bool)
  | setExpiryMode (clientId bindingId underlying expiryMode : String)
  | setRebalancer (rebalancer : ρ)
  | setMcxFeeder (feeder : φ)
  | trade (key : Key) (hasPosition : Bool)
  | pass (readable : Bool) (constructs : Key → Bool)

variable (indices : List String) (isMcx : String → Bool)

/-- What the manager reads. A query that fails answers with no rows. -/
def rowsRead (system : System ρ φ) (readable : Bool) : List Row :=
  if readable then getRunningTrapDeploymentsSync system.clients system.table else []

def step (system : System ρ φ) : Event ρ φ → System ρ φ
  | .database op => { system with table := execute system.table op, changed := true }
  | .client clientId active =>
      { system with clients := Function.update system.clients clientId active, changed := true }
  | .setExpiryMode clientId bindingId underlying expiryMode =>
      { system with
        manager := system.manager.setExpiryMode clientId bindingId underlying expiryMode }
  | .setRebalancer rebalancer =>
      { system with manager := system.manager.setRebalancer rebalancer }
  | .setMcxFeeder feeder => { system with manager := system.manager.setMcxFeeder isMcx feeder }
  | .trade key hasPosition => { system with manager := system.manager.trade key hasPosition }
  | .pass readable constructs =>
      { system with
        manager := system.manager.reconcile isMcx
          (wantedRows indices trapSettings (rowsRead system readable)) constructs
        changed := system.changed && !readable }

/-- The deployment of a key: the last row of the query that has it. -/
def deploymentOf (system : System ρ φ) (key : Key) : Option DeploymentRow :=
  (system.table.filter (fun row => system.clients row.clientId &&
      decide (row.strategyName = "trap_scanner") && row.isActive)).reverse.find?
    (fun row => decide (rowKey indices (selected row) = some key))

/-- The stored expiry mode, as the engine reads one. -/
def storedMode (row : DeploymentRow) : String :=
  strip (if row.expiryMode = "" then "current" else row.expiryMode)

/-- A book with the wiring of its manager. -/
structure Wired (isMcx : Bool) (slot : Slot ρ φ) (engine : Engine ρ φ) : Prop where
  running : engine.running = true
  rebalancer : engine.rebalancer = slot.rebalancer
  mcxFeeder : isMcx = true → engine.mcxFeeder = slot.mcxFeeder

/-- A book as a deployment wants it. -/
structure Right (isMcx : Bool) (row : DeploymentRow) (slot : Slot ρ φ) (engine : Engine ρ φ) :
    Prop extends Wired isMcx slot engine where
  lots : engine.lotMul = trapLots (selected row)
  mode : engine.expiryMode = storedMode row

/-- Every book is as its deployment wants it. -/
def AllRight (system : System ρ φ) : Prop :=
  ∀ key engine, (view system.manager key).engine = some engine →
    ∃ row, deploymentOf indices system key = some row ∧
      Right (isMcx key.2.2) row (view system.manager key) engine

/-- A pass that can read the database leaves every book as its deployment wants it, and
re-creates none if no deployment has changed since the last one. -/
def Equivalent (system : System ρ φ) (event : Event ρ φ) : Prop :=
  match event with
  | .pass true _ =>
      AllRight indices isMcx (step indices isMcx system event) ∧
      (system.changed = false → ∀ key, (view system.manager key).engine.isSome →
        (view (step indices isMcx system event).manager key).constructed =
          (view system.manager key).constructed)
  | _ => True

/-- A mode is applied to a book only when it is stored in the deployment. -/
def Stored (system : System ρ φ) (event : Event ρ φ) : Prop :=
  match event with
  | .setExpiryMode clientId bindingId underlying expiryMode =>
      ∀ row, deploymentOf indices system (clientId, bindingId, underlying.toUpper) = some row →
        storedMode row = strip expiryMode
  | _ => True

/-- What a pass needs of a deployment and its slot. A book that is spawned needs the
current expiry mode; one that is re-spawned also needs a manager with nothing to wire,
and a construction that succeeds; one that is left alone is what is wanted already. -/
def Needs (isMcx : Bool) (row : DeploymentRow) (constructs : Bool) (slot : Slot ρ φ) :
    Option (Engine ρ φ) → Prop
  | none => constructs = true → storedMode row = "current"
  | some engine =>
      if Outdated engine (trapLots (selected row), "current") then
        constructs = true ∧ storedMode row = "current" ∧ slot.rebalancer = none ∧
          (isMcx = true → slot.mcxFeeder = none)
      else engine.lotMul = trapLots (selected row) ∧ engine.expiryMode = storedMode row

instance [DecidableEq ρ] [DecidableEq φ] (isMcx : Bool) (row : DeploymentRow)
    (constructs : Bool) (slot : Slot ρ φ) :
    ∀ engine, Decidable (Needs isMcx row constructs slot engine)
  | none => inferInstanceAs (Decidable (constructs = true → storedMode row = "current"))
  | some engine => inferInstanceAs (Decidable
      (if Outdated engine (trapLots (selected row), "current") then
        constructs = true ∧ storedMode row = "current" ∧ slot.rebalancer = none ∧
          (isMcx = true → slot.mcxFeeder = none)
      else engine.lotMul = trapLots (selected row) ∧ engine.expiryMode = storedMode row))

/-- Every pass that can read the database meets what it needs. -/
def Met (system : System ρ φ) (event : Event ρ φ) : Prop :=
  match event with
  | .pass true constructs =>
      ∀ key row, deploymentOf indices system key = some row →
        Needs (isMcx key.2.2) row (constructs key) (view system.manager key)
          (view system.manager key).engine
  | _ => True

/-! ## One pass -/

section Wanted

theorem wantedRows_concat (rows : List Row) (row : Row) :
    wantedRows indices trapSettings (rows ++ [row]) =
      match rowKey indices row with
      | none => wantedRows indices trapSettings rows
      | some key => (wantedRows indices trapSettings rows).insert key (trapSettings row) := by
  rw [wantedRows, List.foldl_append]
  cases key : rowKey indices row with
  | none => simp [wantedRows, key]
  | some key => simp [wantedRows, key]

/-- What is wanted of a key is what the query tells of its deployment. -/
theorem lookup_wantedRows (rows : List DeploymentRow) (key : Key) :
    (wantedRows indices trapSettings (rows.map selected)).lookup key =
      (rows.reverse.find? (fun row => decide (rowKey indices (selected row) = some key))).map
        (fun row => trapSettings (selected row)) := by
  induction rows using List.reverseRecOn with
  | nil => rfl
  | append_singleton earlier row inductionHypothesis =>
    rw [List.map_append, List.map_singleton, wantedRows_concat, List.reverse_append,
      List.reverse_singleton, List.singleton_append, List.find?_cons]
    cases named : rowKey indices (selected row) with
    | none => simpa using inductionHypothesis
    | some other =>
      by_cases same : other = key
      · subst same
        simp
      · have differs : key ≠ other := fun equal => same equal.symm
        simpa [same, differs] using inductionHypothesis

theorem lookup_wanted (system : System ρ φ) (key : Key) :
    (wantedRows indices trapSettings (rowsRead system true)).lookup key =
      (deploymentOf indices system key).map
        (fun row => (trapLots (selected row), "current")) := by
  have read := lookup_wantedRows indices (system.table.filter
    (fun row => system.clients row.clientId &&
      decide (row.strategyName = "trap_scanner") && row.isActive)) key
  simp only [trapSettings_selected] at read
  exact read

end Wanted

section Slots

variable {mcx constructs : Bool} {row : DeploymentRow} {slot : Slot ρ φ}

theorem strip_current : strip "current" = "current" := congrArg Prod.snd
  (trapSettings_selected (insertedRow ⟨"", "", "", ""⟩ 0))

/-- What a pass leaves in a slot is right exactly if the slot had what it needs. -/
theorem afterPass_right_iff (wiring : ∀ engine, slot.engine = some engine → Wired mcx slot engine) :
    (∀ engine,
      (afterPass mcx (some (trapLots (selected row), "current")) constructs slot).engine =
          some engine →
        Right mcx row (afterPass mcx (some (trapLots (selected row), "current")) constructs slot)
          engine) ↔
      Needs mcx row constructs slot slot.engine := by
  cases held : slot.engine with
  | none =>
    have pass : afterPass mcx (some (trapLots (selected row), "current")) constructs slot =
        afterSpawn mcx (some (trapLots (selected row), "current")) constructs slot := by
      simp only [afterPass, held]
    rw [pass, Needs]
    cases constructs with
    | false => simp [afterSpawn, held]
    | true =>
      constructor
      · intro right _
        have mode := (right _ rfl).mode
        exact mode.symm.trans strip_current
      · intro current engine new
        obtain rfl := Option.some.inj new
        refine ⟨⟨rfl, rfl, fun isMcx => if_pos isMcx⟩, rfl, ?_⟩
        exact strip_current.trans (current rfl).symm
  | some engine =>
    have pass : afterPass mcx (some (trapLots (selected row), "current")) constructs slot =
        respawned (trapLots (selected row), "current") constructs engine slot := by
      simp only [afterPass, held]
    rw [pass, Needs, respawned]
    by_cases outdated : Outdated engine (trapLots (selected row), "current")
    · simp only [if_pos outdated]
      cases constructs with
      | false =>
        refine iff_of_false (fun right => ?_) (by simp)
        have runs := (right engine.stop rfl).running
        simp [Engine.stop] at runs
      | true =>
        constructor
        · intro right
          have now := right _ rfl
          exact ⟨rfl, now.mode.symm.trans strip_current, now.rebalancer.symm,
            fun isMcx => (now.mcxFeeder isMcx).symm⟩
        · rintro ⟨-, current, rebalancer, mcxFeeder⟩ new registered
          obtain rfl := Option.some.inj registered
          exact ⟨⟨rfl, rebalancer.symm, fun isMcx => (mcxFeeder isMcx).symm⟩, rfl,
            strip_current.trans current.symm⟩
    · simp only [if_neg outdated]
      constructor
      · intro right
        exact ⟨(right engine held).lots, (right engine held).mode⟩
      · rintro ⟨lots, mode⟩ same stays
        obtain rfl : engine = same := Option.some.inj (held.symm.trans stays)
        exact ⟨wiring engine held, lots, mode⟩

theorem afterPass_unwanted : (afterPass mcx none constructs slot).engine = none := by
  cases held : slot.engine <;> simp [afterPass]

/-- A book that is what is wanted, under a pass that meets its needs, is not constructed
again. -/
theorem afterPass_constructed {engine : Engine ρ φ} (held : slot.engine = some engine)
    (right : Right mcx row slot engine) (needs : Needs mcx row constructs slot (some engine)) :
    (afterPass mcx (some (trapLots (selected row), "current")) constructs slot).constructed =
      slot.constructed := by
  have settled : ¬Outdated engine (trapLots (selected row), "current") := by
    intro outdated
    rw [Needs, if_pos outdated] at needs
    obtain ⟨-, current, -, -⟩ := needs
    obtain ⟨lots | mode, -⟩ := outdated
    · exact lots right.lots
    · exact mode (right.mode.trans current)
  simp only [afterPass, held, respawned, if_neg settled]

end Slots

/-! ## Runs -/

section Events

variable (system : System ρ φ)

/-- Every book runs with the wiring of the manager, and where no deployment has changed
since the last pass, also with what its deployment wants. -/
structure Settled (system : System ρ φ) : Prop where
  wired : ∀ key engine, (view system.manager key).engine = some engine →
    Wired (isMcx key.2.2) (view system.manager key) engine
  right : system.changed = false → AllRight indices isMcx system

variable {indices isMcx system}

theorem AllRight.settled (right : AllRight indices isMcx system) :
    Settled indices isMcx system := by
  refine ⟨fun key engine held => ?_, fun _ => right⟩
  obtain ⟨row, -, here⟩ := right key engine held
  exact here.toWired

variable (indices isMcx system)

/-- What a pass does to the slot of a key. -/
theorem view_pass (constructs : Key → Bool) (key : Key) :
    view (step indices isMcx system (.pass true constructs)).manager key =
      afterPass (isMcx key.2.2)
        ((deploymentOf indices system key).map (fun row => (trapLots (selected row), "current")))
        (constructs key) (view system.manager key) := by
  have modes := reconcile_view isMcx (wantedRows indices trapSettings (rowsRead system true))
    constructs system.manager key
  rw [lookup_wanted] at modes
  apply modes
  intro settings listed
  obtain ⟨row, -, rfl⟩ := Option.mem_map.mp listed
  exact strip_current

/-- A pass that can read the database leaves everything right exactly if its needs are
met. -/
theorem pass_right_iff (constructs : Key → Bool) (settled : Settled indices isMcx system) :
    AllRight indices isMcx (step indices isMcx system (.pass true constructs)) ↔
      Met indices isMcx system (.pass true constructs) := by
  have same : ∀ key, deploymentOf indices (step indices isMcx system (.pass true constructs)) key =
      deploymentOf indices system key := fun _ => rfl
  constructor
  · intro right key row deployed
    apply (afterPass_right_iff (settled.wired key)).mp
    intro engine held
    have here := right key engine
    rw [view_pass, deployed] at here
    obtain ⟨other, found, wanted⟩ := here held
    rw [same, deployed] at found
    obtain rfl := Option.some.inj found
    exact wanted
  · intro met key engine held
    rw [view_pass] at held ⊢
    rw [same]
    cases deployed : deploymentOf indices system key with
    | none =>
      rw [deployed, Option.map_none, afterPass_unwanted] at held
      simp at held
    | some row =>
      rw [deployed] at held
      exact ⟨row, rfl, (afterPass_right_iff (settled.wired key)).mpr (met key row deployed) engine
        held⟩

/-- A change of the books that keeps what they share with the manager. -/
theorem Wired.modify {mcx : Bool} {slot : Slot ρ φ} {change : Engine ρ φ → Engine ρ φ}
    (wired : ∀ engine, slot.engine = some engine → Wired mcx slot engine)
    (kept : ∀ engine, (change engine).running = engine.running ∧
      (change engine).rebalancer = engine.rebalancer ∧
      (change engine).mcxFeeder = engine.mcxFeeder) :
    ∀ engine, (slot.modify change).engine = some engine →
      Wired mcx (slot.modify change) engine := by
  intro engine held
  obtain ⟨before, stored, rfl⟩ := Option.map_eq_some_iff.mp held
  obtain ⟨running, rebalancer, mcxFeeder⟩ := kept before
  have here := wired before stored
  exact ⟨running.trans here.running, rebalancer.trans here.rebalancer,
    fun isMcx => mcxFeeder.trans (here.mcxFeeder isMcx)⟩

theorem trade_settled (settled : Settled indices isMcx system) (traded : Key)
    (hasPosition : Bool) :
    Settled indices isMcx (step indices isMcx system (.trade traded hasPosition)) := by
  constructor
  · intro key
    simp only [step, view_trade]
    split
    · exact Wired.modify (settled.wired key) (fun _ => ⟨rfl, rfl, rfl⟩)
    · exact settled.wired key
  · intro unchanged key engine
    have right := settled.right unchanged key
    simp only [step, view_trade]
    split
    · intro held
      obtain ⟨before, stored, rfl⟩ := Option.map_eq_some_iff.mp held
      obtain ⟨row, deployed, here⟩ := right before stored
      exact ⟨row, deployed, ⟨here.running, here.rebalancer, here.mcxFeeder⟩, here.lots, here.mode⟩
    · exact right engine

theorem setExpiryMode_settled (settled : Settled indices isMcx system)
    (clientId bindingId underlying expiryMode : String)
    (stored : Stored indices system (.setExpiryMode clientId bindingId underlying expiryMode)) :
    Settled indices isMcx
      (step indices isMcx system (.setExpiryMode clientId bindingId underlying expiryMode)) := by
  constructor
  · intro key
    simp only [step, view_setExpiryMode]
    split
    · exact Wired.modify (settled.wired key) (fun _ => ⟨rfl, rfl, rfl⟩)
    · exact settled.wired key
  · intro unchanged key engine
    have right := settled.right unchanged key
    simp only [step, view_setExpiryMode]
    split
    · rename_i same
      subst same
      intro held
      obtain ⟨before, registered, rfl⟩ := Option.map_eq_some_iff.mp held
      obtain ⟨row, deployed, here⟩ := right before registered
      exact ⟨row, deployed, ⟨here.running, here.rebalancer, here.mcxFeeder⟩, here.lots,
        (stored row deployed).symm⟩
    · exact right engine

theorem setRebalancer_settled (settled : Settled indices isMcx system) (rebalancer : ρ) :
    Settled indices isMcx (step indices isMcx system (.setRebalancer rebalancer)) := by
  constructor
  · intro key engine
    simp only [step, view_setRebalancer]
    intro held
    obtain ⟨before, stored, rfl⟩ := Option.map_eq_some_iff.mp held
    have here := settled.wired key before stored
    exact ⟨here.running, rfl, here.mcxFeeder⟩
  · intro unchanged key engine
    simp only [step, view_setRebalancer]
    intro held
    obtain ⟨before, stored, rfl⟩ := Option.map_eq_some_iff.mp held
    obtain ⟨row, deployed, here⟩ := settled.right unchanged key before stored
    exact ⟨row, deployed, ⟨here.running, rfl, here.mcxFeeder⟩, here.lots, here.mode⟩

theorem setMcxFeeder_settled (settled : Settled indices isMcx system) (feeder : φ) :
    Settled indices isMcx (step indices isMcx system (.setMcxFeeder feeder)) := by
  have wire : ∀ (key : Key) (before : Engine ρ φ),
      Wired (isMcx key.2.2) (view system.manager key) before →
      Wired (isMcx key.2.2)
        { (view system.manager key).modify (fun engine =>
            if isMcx key.2.2 then { engine with mcxFeeder := some feeder } else engine) with
          mcxFeeder := some feeder }
        (if isMcx key.2.2 then { before with mcxFeeder := some feeder } else before) := by
    intro key before here
    cases mcx : isMcx key.2.2 with
    | true => exact ⟨here.running, here.rebalancer, fun _ => rfl⟩
    | false => exact ⟨here.running, here.rebalancer, fun off => by simp at off⟩
  constructor
  · intro key engine
    simp only [step, view_setMcxFeeder]
    intro held
    obtain ⟨before, stored, rfl⟩ := Option.map_eq_some_iff.mp held
    exact wire key before (settled.wired key before stored)
  · intro unchanged key engine
    simp only [step, view_setMcxFeeder]
    intro held
    obtain ⟨before, stored, rfl⟩ := Option.map_eq_some_iff.mp held
    obtain ⟨row, deployed, here⟩ := settled.right unchanged key before stored
    refine ⟨row, deployed, wire key before here.toWired, ?_, ?_⟩
    · split
      · exact here.lots
      · exact here.lots
    · split
      · exact here.mode
      · exact here.mode

/-- Where the database cannot be read every book is stopped. -/
theorem unreadable_settled (constructs : Key → Bool) :
    Settled indices isMcx (step indices isMcx system (.pass false constructs)) := by
  have gone : ∀ key,
      (view (step indices isMcx system (.pass false constructs)).manager key).engine = none := by
    intro key
    have read := reconcile_view isMcx (wantedRows indices trapSettings (rowsRead system false))
      constructs system.manager key (by simp [rowsRead, wantedRows])
    have empty : (wantedRows indices trapSettings (rowsRead system false)).lookup key = none := by
      simp [rowsRead, wantedRows]
    rw [empty] at read
    simp only [step, read]
    exact afterPass_unwanted
  constructor
  · intro key engine held
    rw [gone key] at held
    cases held
  · intro _ key engine held
    rw [gone key] at held
    cases held

/-- One event keeps the books settled. Only a pass can spoil them. -/
theorem step_settled (event : Event ρ φ) (settled : Settled indices isMcx system)
    (stored : Stored indices system event) (equivalent : Equivalent indices isMcx system event) :
    Settled indices isMcx (step indices isMcx system event) := by
  cases event with
  | database op => exact ⟨settled.wired, fun unchanged => by simp [step] at unchanged⟩
  | client clientId active => exact ⟨settled.wired, fun unchanged => by simp [step] at unchanged⟩
  | setExpiryMode clientId bindingId underlying expiryMode =>
    exact setExpiryMode_settled indices isMcx system settled _ _ _ _ stored
  | setRebalancer rebalancer => exact setRebalancer_settled indices isMcx system settled rebalancer
  | setMcxFeeder feeder => exact setMcxFeeder_settled indices isMcx system settled feeder
  | trade traded hasPosition =>
    exact trade_settled indices isMcx system settled traded hasPosition
  | pass readable constructs =>
    cases readable with
    | false => exact unreadable_settled indices isMcx system constructs
    | true => exact AllRight.settled equivalent.1

/-- A pass is equivalent to a spawn exactly where its needs are met. That it re-creates
nothing follows: what is right already needs no new book. -/
theorem equivalent_iff (event : Event ρ φ) (settled : Settled indices isMcx system) :
    Equivalent indices isMcx system event ↔ Met indices isMcx system event := by
  cases event with
  | pass readable constructs =>
    cases readable with
    | false => exact Iff.rfl
    | true =>
      refine ⟨fun equivalent => (pass_right_iff indices isMcx system constructs settled).mp
        equivalent.1, fun met => ⟨(pass_right_iff indices isMcx system constructs settled).mpr met,
        fun unchanged key held => ?_⟩⟩
      obtain ⟨engine, registered⟩ := Option.isSome_iff_exists.mp held
      obtain ⟨row, deployed, right⟩ := settled.right unchanged key engine registered
      rw [view_pass, deployed]
      exact afterPass_constructed registered right (registered ▸ met key row deployed)
  | database op => exact Iff.rfl
  | client clientId active => exact Iff.rfl
  | setExpiryMode clientId bindingId underlying expiryMode => exact Iff.rfl
  | setRebalancer rebalancer => exact Iff.rfl
  | setMcxFeeder feeder => exact Iff.rfl
  | trade traded hasPosition => exact Iff.rfl

/-- A manager that has not run yet. -/
theorem fresh_settled : Settled indices isMcx ({} : System ρ φ) :=
  ⟨fun _ _ held => (by cases held), fun unchanged => (by cases unchanged)⟩

/-- In every run in which modes are stored before they are applied, the books that a
pass leaves are equivalent to spawned ones exactly if every pass meets its needs. -/
theorem books_equivalent_iff (events : List (Event ρ φ))
    (stored : Along (step indices isMcx) (Stored indices) {} events) :
    Along (step indices isMcx) (Equivalent indices isMcx) {} events ↔
      Along (step indices isMcx) (Met indices isMcx) {} events :=
  along_iff (step indices isMcx)
    (fun system event settled stored equivalent =>
      step_settled indices isMcx system event settled stored equivalent)
    (fun system event settled _ => equivalent_iff indices isMcx system event settled)
    {} events (fresh_settled indices isMcx) stored

end Events

/-! ## A deployment that changes -/

def trap : Deployment := ⟨"c1", "b1", "trap_scanner", "NIFTY"⟩

/-- A manager with a rebalancer, and one deployment of three lots. -/
def deployed : List (Event Unit Unit) :=
  [.setRebalancer (), .client "c1" true, .database (.save trap 3), .pass true (fun _ => true)]

/-- The book runs with four lots and the rebalancer, and another pass leaves it alone. -/
theorem deployed_equivalent :
    Along (step [] (fun _ => false)) (Equivalent [] (fun _ => false)) {}
      (deployed ++ [.trade ("c1", "b1", "NIFTY") true, .pass true (fun _ => true)]) := by
  have only : ∀ (system : System Unit Unit) (key : Key) (row : DeploymentRow),
      system.table = [insertedRow trap 3] → deploymentOf [] system key = some row →
        row = insertedRow trap 3 ∧ key = ("c1", "b1", "NIFTY") := by
    intro system key row table found
    have listed := List.mem_of_find?_eq_some found
    simp only [List.mem_reverse, List.mem_filter, table, List.mem_singleton] at listed
    obtain ⟨rfl, -⟩ := listed
    have named := List.find?_some found
    have here : rowKey [] (selected (insertedRow trap 3)) = some ("c1", "b1", "NIFTY") := by
      decide +kernel
    rw [here] at named
    exact ⟨rfl, (Option.some.inj (of_decide_eq_true named)).symm⟩
  apply (books_equivalent_iff [] (fun _ => false) _ ?_).mpr
  · refine ⟨trivial, trivial, trivial, ?_, trivial, ?_, trivial⟩
    · intro key row found
      obtain ⟨rfl, rfl⟩ := only _ key row (by decide) found
      intro _
      decide
    · intro key row found
      obtain ⟨rfl, rfl⟩ := only _ key row (by decide +kernel) found
      decide +kernel
  · exact ⟨trivial, trivial, trivial, trivial, trivial, trivial, trivial⟩

/-- New lots cost the book its rebalancer, and a new expiry mode costs it the mode. -/
theorem respawned_book_differs :
    ¬Along (step [] (fun _ => false)) (Equivalent [] (fun _ => false)) {}
        (deployed ++ [.database (.save trap 4), .pass true (fun _ => true)] ++
          [.database (.save trap 6), .pass true (fun _ => true)]) ∧
    ¬Along (step [] (fun _ => false)) (Equivalent [] (fun _ => false)) {}
        (deployed ++ [.database (.setExpiryMode trap.deployId "c1" "monthly"),
          .setExpiryMode "c1" "b1" "NIFTY" "monthly", .pass true (fun _ => true)]) := by
  constructor
  · intro equivalent
    rw [along_append] at equivalent
    obtain ⟨-, -, ⟨right, -⟩, -⟩ := equivalent
    obtain ⟨row, -, here⟩ := right ("c1", "b1", "NIFTY")
      { lotMul := 6, expiryMode := "current", running := true } (by decide +kernel)
    exact absurd here.rebalancer (by decide +kernel)
  · intro equivalent
    rw [along_append] at equivalent
    obtain ⟨-, -, -, ⟨right, -⟩, -⟩ := equivalent
    obtain ⟨row, found, here⟩ := right ("c1", "b1", "NIFTY")
      { lotMul := 4, expiryMode := "current", running := true } (by decide +kernel)
    have stored : row = { insertedRow trap 3 with expiryMode := "monthly" } :=
      Option.some.inj (found.symm.trans (by decide +kernel))
    have mode := here.mode
    rw [stored] at mode
    exact absurd mode (by decide)

end OptionChain.TrapWiring
