import OptionChain.BookManagers

/-!
# What a reconcile pass keeps

The three loops of a pass act on each key by itself, so a pass is read off key by
key. A pass whose query succeeds and whose engines can be constructed runs exactly
the wanted books, one engine each, and leaves a wanted book with a position alone. A
pass whose query raises wants nothing, and stops every book.
-/

namespace OptionChain.BookReconciliation

open Runs KeyedLoops BookManagers

variable {S : Type}

/-- The registered book of a key and its running engines. -/
abbrev Slot (S : Type) := Option (Book S) × List Nat

def view (manager : Manager S) (key : Key) : Slot S := (manager.books.lookup key, manager.live key)

/-- A slot after a spawn. -/
def spawned (settings : S) (new : Option NewEngine) (slot : Slot S) : Slot S :=
  match new with
  | none => slot
  | some new => (some ⟨new.engine, settings, new.restored⟩, slot.2 ++ [new.engine])

/-- A slot after the loop that spawns, for an absent book. -/
def afterSpawn (want : Option S) (new : Option NewEngine) (slot : Slot S) : Slot S :=
  match want with
  | none => slot
  | some settings => spawned settings new slot

/-- A slot after the loop that stops. -/
def afterStop (slot : Slot S) : Slot S :=
  match slot.1 with
  | none => slot
  | some book => (none, slot.2.erase book.engine)

/-- A slot after the loop that re-spawns. -/
def afterRespawn [DecidableEq S] (want : Option S) (new : Option NewEngine) (slot : Slot S) :
    Slot S :=
  match want, slot.1 with
  | some settings, some book =>
      if book.settings ≠ settings ∧ book.hasPosition = false then
        spawned settings new (some book, slot.2.erase book.engine)
      else slot
  | _, _ => slot

section Loops

variable (manager : Manager S) (key seen : Key)

theorem view_spawn_own (settings : S) (new : Option NewEngine) :
    view (manager.spawn key settings new) key = spawned settings new (view manager key) := by
  cases new with
  | none => rfl
  | some new => simp [view, Manager.spawn, spawned]

theorem view_spawn_other (settings : S) (new : Option NewEngine) (apart : seen ≠ key) :
    view (manager.spawn key settings new) seen = view manager seen := by
  cases new with
  | none => rfl
  | some new => simp [view, Manager.spawn, apart]

theorem view_halt_other (engine : Nat) (apart : seen ≠ key) :
    view (manager.halt key engine) seen = view manager seen := by
  simp [view, Manager.halt, apart]

variable (wanted : AList (fun _ : Key => S)) (spawns : Key → Option NewEngine)

theorem keyed_spawn : Keyed view (Manager.spawnWanted wanted spawns)
    (fun key slot => afterSpawn (wanted.lookup key) (spawns key) slot) := by
  constructor
  · intro manager key
    unfold Manager.spawnWanted afterSpawn
    cases wanted.lookup key with
    | none => rfl
    | some settings => exact view_spawn_own manager key settings (spawns key)
  · intro manager key seen apart
    unfold Manager.spawnWanted
    cases wanted.lookup key with
    | none => rfl
    | some settings => exact view_spawn_other manager key seen settings (spawns key) apart

theorem keyed_stop : Keyed view Manager.stopBook (fun (_ : Key) (slot : Slot S) =>
    afterStop slot) := by
  constructor
  · intro manager key
    unfold Manager.stopBook afterStop
    cases registered : manager.books.lookup key with
    | none => simp [view, registered]
    | some book => simp [view, registered, Manager.halt]
  · intro manager key seen apart
    unfold Manager.stopBook
    cases manager.books.lookup key with
    | none => rfl
    | some book => simp [view, Manager.halt, apart]

theorem keyed_respawn [DecidableEq S] : Keyed view (Manager.respawnBook wanted spawns)
    (fun key slot => afterRespawn (wanted.lookup key) (spawns key) slot) := by
  constructor
  · intro manager key
    unfold Manager.respawnBook afterRespawn
    cases wanted.lookup key with
    | none => rfl
    | some settings =>
      cases registered : manager.books.lookup key with
      | none => simp [view, registered]
      | some book =>
        simp only [view, registered]
        split
        · have spawn := view_spawn_own (manager.halt key book.engine) key settings (spawns key)
          simpa [view, Manager.halt, registered] using spawn
        · simp [registered]
  · intro manager key seen apart
    unfold Manager.respawnBook
    cases wanted.lookup key with
    | none => rfl
    | some settings =>
      cases manager.books.lookup key with
      | none => rfl
      | some book =>
        dsimp only
        split
        · rw [view_spawn_other _ key seen settings (spawns key) apart,
            view_halt_other manager key seen book.engine apart]
        · rfl

end Loops

section Pass

variable (wanted : AList (fun _ : Key => S)) (spawns : Key → Option NewEngine)
  (manager : Manager S) (key : Key)

theorem spawnLoop_view :
    view ((wanted.keys.filter (· ∉ manager.books)).foldl
        (Manager.spawnWanted wanted spawns) manager) key =
      match (view manager key).1 with
      | none => afterSpawn (wanted.lookup key) (spawns key) (view manager key)
      | some _ => view manager key := by
  have idle : wanted.lookup key = none →
      afterSpawn (wanted.lookup key) (spawns key) (view manager key) = view manager key := by
    intro unwanted
    rw [unwanted]
    rfl
  rw [foldl_missing (keyed_spawn wanted spawns) wanted manager.books manager key idle]
  cases registered : manager.books.lookup key <;> simp [view, registered]

theorem stopLoop_view :
    view ((manager.books.keys.filter (· ∉ wanted)).foldl Manager.stopBook manager) key =
      match wanted.lookup key with
      | none => afterStop (view manager key)
      | some _ => view manager key := by
  have idle : manager.books.lookup key = none →
      afterStop (view manager key) = view manager key := by
    intro absent
    simp [afterStop, view, absent]
  rw [foldl_missing keyed_stop manager.books wanted manager key idle]
  cases wanted.lookup key <;> rfl

variable [DecidableEq S]

theorem respawnLoop_view :
    view (wanted.keys.foldl (Manager.respawnBook wanted spawns) manager) key =
      afterRespawn (wanted.lookup key) (spawns key) (view manager key) := by
  rw [foldl_view (keyed_respawn wanted spawns) _ (AList.keys_nodup _)]
  split
  · rfl
  · rename_i unwanted
    rw [AList.lookup_eq_none.mpr (fun present => unwanted (AList.mem_keys.mp present))]
    rfl

/-- A slot after a whole pass. -/
def afterPass (want : Option S) (new : Option NewEngine) (slot : Slot S) : Slot S :=
  match want, slot.1 with
  | none, _ => afterStop slot
  | some settings, none => spawned settings new slot
  | some _, some _ => afterRespawn want new slot

/-- A pass does to every key what its slot says. A book that was just spawned has the
wanted settings, so the last loop leaves it alone. -/
theorem reconcile_view :
    view (manager.reconcile wanted spawns) key =
      afterPass (wanted.lookup key) (spawns key) (view manager key) := by
  unfold Manager.reconcile
  dsimp only
  rw [respawnLoop_view, stopLoop_view, spawnLoop_view]
  cases wanted.lookup key with
  | none =>
    cases (view manager key).1 with
    | none => rfl
    | some book => rfl
  | some settings =>
    cases registered : (view manager key).1 with
    | some book => simp [afterPass, registered]
    | none =>
      cases spawns key with
      | none => simp [afterPass, afterSpawn, spawned, afterRespawn, registered]
      | some new => simp [afterPass, afterSpawn, spawned, afterRespawn, registered]

end Pass

/-- The engines that should run for a registered book. -/
def engines (registered : Option (Book S)) : List Nat := (registered.map (·.engine)).toList

/-- A slot runs one engine, of the registered book, exactly when the book is wanted. -/
def Serves (want : Option S) (slot : Slot S) : Prop :=
  slot.1.isSome = want.isSome ∧ slot.2 = engines slot.1

/-- A pass needs a new engine: the book is wanted, and absent or flat with other
settings. -/
def Due [DecidableEq S] (want : Option S) (registered : Option (Book S)) : Prop :=
  match want, registered with
  | none, _ => False
  | some _, none => True
  | some settings, some book => book.settings ≠ settings ∧ book.hasPosition = false

instance [DecidableEq S] : ∀ (want : Option S) (registered : Option (Book S)),
    Decidable (Due want registered)
  | none, _ => .isFalse id
  | some _, none => .isTrue trivial
  | some settings, some book => inferInstanceAs
      (Decidable (book.settings ≠ settings ∧ book.hasPosition = false))

section Slots

variable [DecidableEq S] (want : Option S) (new : Option NewEngine) (slot : Slot S)

/-- A pass serves a key exactly when an engine that is due can be constructed. -/
theorem afterPass_serves_iff (single : slot.2 = engines slot.1) :
    Serves want (afterPass want new slot) ↔ (Due want slot.1 → new ≠ none) := by
  obtain ⟨registered, live⟩ := slot
  dsimp only at single
  subst single
  cases want with
  | none =>
    cases registered with
    | none => simp [Serves, afterPass, afterStop, engines, Due]
    | some book => simp [Serves, afterPass, afterStop, engines, Due]
  | some settings =>
    cases registered with
    | none => cases new <;> simp [Serves, afterPass, spawned, engines, Due]
    | some book =>
      by_cases due : book.settings ≠ settings ∧ book.hasPosition = false
      · cases new <;> simp [Serves, afterPass, afterRespawn, spawned, engines, Due, due]
      · simp [Serves, afterPass, afterRespawn, engines, Due, due]

/-- A wanted book with a position is left alone. -/
theorem afterPass_keeps_position (book : Book S) (registered : slot.1 = some book)
    (holding : book.hasPosition = true) (wants : want ≠ none) :
    (afterPass want new slot).1 = some book := by
  obtain ⟨settings, some⟩ := Option.ne_none_iff_exists'.mp wants
  simp [afterPass, afterRespawn, some, registered, holding]

end Slots

variable [DecidableEq S] (indices : List String) (settings : Row → S)

/-- The books are those of the last successful query, one running engine each. -/
def Agrees (system : System S) : Prop :=
  ∀ key, Serves (system.lastWanted.lookup key) (view system.manager key)

/-- An event leaves the books in agreement. A failed query changes nothing, and a
successful one leaves a wanted book with a position alone. -/
def Stable (system : System S) (event : Event) : Prop :=
  Agrees (step indices settings system event) ∧
    match event with
    | .pass none _ => (step indices settings system event).manager = system.manager
    | .pass (some rows) _ => ∀ key book, system.manager.books.lookup key = some book →
        book.hasPosition = true → key ∈ wantedRows indices settings rows →
        (step indices settings system event).manager.books.lookup key = some book
    | .trade _ _ => True

/-- A query fails only where no book runs, and every engine that is due can be
constructed. -/
def Reads (system : System S) : Event → Prop
  | .pass none _ => system.manager.books.keys = []
  | .pass (some rows) spawns => ∀ key ∈ (wantedRows indices settings rows).keys,
      Due ((wantedRows indices settings rows).lookup key) (system.manager.books.lookup key) →
        spawns key ≠ none
  | .trade _ _ => True

instance (system : System S) : ∀ event : Event, Decidable (Reads indices settings system event)
  | .pass none _ => inferInstanceAs (Decidable (_ = []))
  | .pass (some rows) _ => inferInstanceAs
      (Decidable (∀ key ∈ (wantedRows indices settings rows).keys, _ → _))
  | .trade _ _ => .isTrue trivial

section Step

variable (system : System S)

theorem trade_agrees (key : Key) (hasPosition : Bool) (agrees : Agrees system) :
    Agrees (step indices settings system (.trade key hasPosition)) := by
  intro seen
  have here := agrees seen
  change Serves (system.lastWanted.lookup seen) (view (system.manager.trade key hasPosition) seen)
  unfold Manager.trade
  cases registered : system.manager.books.lookup key with
  | none => exact here
  | some book =>
    by_cases same : seen = key
    · subst same
      simpa [Serves, view, registered, engines] using here
    · simpa [Serves, view, same] using here

theorem pass_serves (query : Option (List Row)) (spawns : Key → Option NewEngine) (key : Key)
    (agrees : Agrees system) :
    Serves ((wanted indices settings query).lookup key)
        (view (system.manager.reconcile (wanted indices settings query) spawns) key) ↔
      (Due ((wanted indices settings query).lookup key) (system.manager.books.lookup key) →
        spawns key ≠ none) := by
  rw [reconcile_view]
  exact afterPass_serves_iff _ _ _ (agrees key).2

/-- A pass whose query failed stops whatever runs. -/
theorem failed_pass_iff (spawns : Key → Option NewEngine) (agrees : Agrees system) :
    Stable indices settings system (.pass none spawns) ↔
      Reads indices settings system (.pass none spawns) := by
  constructor
  · rintro ⟨-, unchanged⟩
    change system.manager.reconcile ∅ spawns = system.manager at unchanged
    refine List.eq_nil_iff_forall_not_mem.mpr fun key registered => ?_
    have stopped : (view (system.manager.reconcile ∅ spawns) key).1 = none := by
      rw [reconcile_view, AList.lookup_empty]
      cases here : (view system.manager key).1 <;> simp [afterPass, afterStop, here]
    rw [unchanged] at stopped
    exact AList.lookup_eq_none.mp stopped (AList.mem_keys.mpr registered)
  · intro empty
    have unchanged : system.manager.reconcile ∅ spawns = system.manager := by
      have keys : system.manager.books.keys = [] := empty
      simp [Manager.reconcile, keys]
    exact ⟨fun key => by
      change Serves (system.lastWanted.lookup key) (view (system.manager.reconcile ∅ spawns) key)
      rw [unchanged]
      exact agrees key, unchanged⟩

theorem successful_pass_iff (rows : List Row) (spawns : Key → Option NewEngine)
    (agrees : Agrees system) :
    Stable indices settings system (.pass (some rows) spawns) ↔
      Reads indices settings system (.pass (some rows) spawns) := by
  have serves := fun key => pass_serves indices settings system (some rows) spawns key agrees
  constructor
  · rintro ⟨after, -⟩ key _
    exact (serves key).mp (after key)
  · intro reads
    refine ⟨fun key => (serves key).mpr fun due => ?_, ?_⟩
    · by_cases wants : key ∈ wantedRows indices settings rows
      · exact reads key (AList.mem_keys.mp wants) due
      · have unwanted : (wanted indices settings (some rows)).lookup key = none :=
          AList.lookup_eq_none.mpr wants
        simp [unwanted, Due] at due
    · intro key book registered holding wants
      have kept := afterPass_keeps_position ((wantedRows indices settings rows).lookup key)
        (spawns key) (view system.manager key) book registered holding (by
          intro unwanted
          exact AList.lookup_eq_none.mp unwanted wants)
      rw [← reconcile_view] at kept
      exact kept

theorem stable_iff (event : Event) (agrees : Agrees system) :
    Stable indices settings system event ↔ Reads indices settings system event := by
  cases event with
  | pass query spawns =>
    cases query with
    | none => exact failed_pass_iff indices settings system spawns agrees
    | some rows => exact successful_pass_iff indices settings system rows spawns agrees
  | trade key hasPosition =>
    exact iff_of_true ⟨trade_agrees indices settings system key hasPosition agrees, trivial⟩ trivial

end Step

/-- Along every run the passes are stable exactly when the queries fail only without
books and every due engine can be constructed. -/
theorem stable_along_iff (events : List Event) :
    Along (step indices settings) (Stable indices settings) {} events ↔
      Along (step indices settings) (Reads indices settings) {} events := by
  have agrees : Agrees ({} : System S) := fun _ => ⟨rfl, rfl⟩
  constructor
  · exact along_under _ (fun _ _ _ stable => stable.1)
      (fun system event agrees => (stable_iff indices settings system event agrees).mp)
      {} events agrees
  · exact along_under _
      (fun system event agrees reads =>
        ((stable_iff indices settings system event agrees).mpr reads).1)
      (fun system event agrees => (stable_iff indices settings system event agrees).mpr)
      {} events agrees

/-- Both managers are stable in exactly these runs. -/
theorem book_managers_stable_iff (indices : List String) (events : List Event) :
    (Along (step indices straddleLots) (Stable indices straddleLots) {} events ↔
        Along (step indices straddleLots) (Reads indices straddleLots) {} events) ∧
      (Along (step indices trapSettings) (Stable indices trapSettings) {} events ↔
        Along (step indices trapSettings) (Reads indices trapSettings) {} events) := by
  constructor
  · exact stable_along_iff indices straddleLots events
  · exact stable_along_iff indices trapSettings events

/-- One deployment, spawned, traded, and then a locked database. -/
def lockedDatabase : List Event :=
  [.pass (some [⟨"C1", "Z1", "NIFTY", "", some 2, ""⟩]) (fun _ => some ⟨1, false⟩),
    .trade ("C1", "Z1", "NIFTY") true, .pass none (fun _ => none)]

/-- The failed read stops the book with its position, in both managers. -/
theorem locked_database_stops_books :
    ¬ Along (step ["NIFTY"] straddleLots) (Stable ["NIFTY"] straddleLots) {} lockedDatabase ∧
      ¬ Along (step ["NIFTY"] trapSettings) (Stable ["NIFTY"] trapSettings) {} lockedDatabase := by
  rw [stable_along_iff, stable_along_iff]
  decide +kernel

end OptionChain.BookReconciliation
