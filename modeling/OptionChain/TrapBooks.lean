import OptionChain.Deployments

/-!
# The trap books and their wiring

A trap book trades with a rebalancer and, on MCX, with a feeder of its own. Both are
set on the manager, which hands them to the books that it has and to those that it
spawns. A book is built in two places: the loop that spawns wires it, the loop that
re-spawns does not.

The lots and the expiry mode of a deployment come from the database, and the mode is
also applied to a running book. A pass is read off key by key.
-/

namespace OptionChain.TrapBooks

open BookManagers KeyedLoops Deployments

section Model

variable {ρ φ : Type}

/-- What the manager sets and reads of an engine. -/
structure Engine (ρ φ : Type) where
  lotMul : Int
  expiryMode : String
  rebalancer : Option ρ := none
  mcxFeeder : Option φ := none
  hasPosition : Bool := false
  running : Bool := false
deriving DecidableEq

/-- The manager, and how many engines it has constructed for each key. -/
structure TrapBookManager (ρ φ : Type) where
  books : AList (fun _ : Key => Engine ρ φ) := ∅
  rebalancer : Option ρ := none
  mcxFeeder : Option φ := none
  constructed : Key → Nat := fun _ => 0

/-- The constructor, which reads an empty mode as the current one. -/
def construct (lots : Int) (expiryMode : String) : Engine ρ φ where
  lotMul := lots
  expiryMode := strip (if expiryMode = "" then "current" else expiryMode)

def Engine.start (engine : Engine ρ φ) : Engine ρ φ := { engine with running := true }

/-- `stop_async`. -/
def Engine.stop (engine : Engine ρ φ) : Engine ρ φ := { engine with running := false }

/-- `lots_changed` or `expiry_changed`, of a flat book. -/
def Outdated (engine : Engine ρ φ) (want : Int × String) : Prop :=
  (engine.lotMul ≠ want.1 ∨ engine.expiryMode ≠ want.2) ∧ engine.hasPosition = false

instance (engine : Engine ρ φ) (want : Int × String) : Decidable (Outdated engine want) :=
  inferInstanceAs (Decidable (_ ∧ _))

variable (isMcx : String → Bool)

/-- The wiring of the loop that spawns. -/
def wire (manager : TrapBookManager ρ φ) (key : Key) (engine : Engine ρ φ) : Engine ρ φ :=
  let wired : Engine ρ φ :=
    if manager.rebalancer.isSome then { engine with rebalancer := manager.rebalancer } else engine
  if manager.mcxFeeder.isSome && isMcx key.2.2 then
    { wired with mcxFeeder := manager.mcxFeeder }
  else wired

namespace TrapBookManager

variable (manager : TrapBookManager ρ φ)

/-- A new engine under its key. -/
def register (key : Key) (engine : Engine ρ φ) : TrapBookManager ρ φ :=
  { manager with
    books := manager.books.insert key engine
    constructed := Function.update manager.constructed key (manager.constructed key + 1) }

def setRebalancer (rebalancer : ρ) : TrapBookManager ρ φ :=
  { manager with
    rebalancer := some rebalancer
    books := manager.books.keys.foldl
      (fun books key => match books.lookup key with
        | none => books
        | some engine => books.insert key { engine with rebalancer := some rebalancer })
      manager.books }

def setMcxFeeder (feeder : φ) : TrapBookManager ρ φ :=
  { manager with
    mcxFeeder := some feeder
    books := manager.books.keys.foldl
      (fun books key => match books.lookup key with
        | none => books
        | some engine =>
            if isMcx key.2.2 then books.insert key { engine with mcxFeeder := some feeder }
            else books)
      manager.books }

/-- `set_expiry_mode`, of the manager and of the engine. -/
def setExpiryMode (clientId bindingId underlying expiryMode : String) : TrapBookManager ρ φ :=
  let key := (clientId, bindingId, underlying.toUpper)
  match manager.books.lookup key with
  | none => manager
  | some engine =>
      { manager with
        books := manager.books.insert key { engine with expiryMode := strip expiryMode } }

/-- A book opens or closes a position between two passes. -/
def trade (key : Key) (hasPosition : Bool) : TrapBookManager ρ φ :=
  match manager.books.lookup key with
  | none => manager
  | some engine =>
      { manager with books := manager.books.insert key { engine with hasPosition := hasPosition } }

variable (wanted : AList (fun _ : Key => Int × String)) (constructs : Key → Bool)

/-- One round of the loop that spawns. A construction that raises is logged. -/
def spawnBook (key : Key) : TrapBookManager ρ φ :=
  match wanted.lookup key with
  | none => manager
  | some (lots, expiryMode) =>
      if constructs key then
        manager.register key (wire isMcx manager key (construct lots expiryMode)).start
      else manager

/-- One round of the loop that stops. -/
def stopBook (key : Key) : TrapBookManager ρ φ :=
  { manager with books := manager.books.erase key }

/-- One round of the loop that re-spawns: the old engine is stopped before the new one
is constructed, and the new one is not wired. -/
def respawnBook (key : Key) : TrapBookManager ρ φ :=
  match wanted.lookup key, manager.books.lookup key with
  | some settings, some engine =>
      if Outdated engine settings then
        let stopped : TrapBookManager ρ φ :=
          { manager with books := manager.books.insert key engine.stop }
        if constructs key then stopped.register key (construct settings.1 settings.2).start
        else stopped
      else manager
  | _, _ => manager

/-- `_reconcile`. -/
def reconcile : TrapBookManager ρ φ :=
  let spawned := (wanted.keys.filter (· ∉ manager.books)).foldl
    (fun manager key => manager.spawnBook isMcx wanted constructs key) manager
  let stopped := (spawned.books.keys.filter (· ∉ wanted)).foldl stopBook spawned
  wanted.keys.foldl (fun manager key => manager.respawnBook wanted constructs key) stopped

end TrapBookManager

end Model

/-! ## What the manager does to one key -/

section Pass

variable {ρ φ : Type}

/-- What the manager holds of a key, and what it would wire. -/
structure Slot (ρ φ : Type) where
  engine : Option (Engine ρ φ)
  constructed : Nat
  rebalancer : Option ρ
  mcxFeeder : Option φ

def view (manager : TrapBookManager ρ φ) (key : Key) : Slot ρ φ :=
  ⟨manager.books.lookup key, manager.constructed key, manager.rebalancer, manager.mcxFeeder⟩

/-- A change of the book of a slot, if there is one. -/
def Slot.modify (slot : Slot ρ φ) (change : Engine ρ φ → Engine ρ φ) : Slot ρ φ :=
  { slot with engine := slot.engine.map change }

section Settings

variable (manager : TrapBookManager ρ φ) (key : Key)

theorem view_trade (traded : Key) (hasPosition : Bool) :
    view (manager.trade traded hasPosition) key =
      if key = traded then
        (view manager key).modify (fun engine => { engine with hasPosition := hasPosition })
      else view manager key := by
  unfold TrapBookManager.trade
  by_cases same : key = traded
  · subst same
    cases held : manager.books.lookup key <;> simp [view, Slot.modify, held]
  · cases manager.books.lookup traded <;> simp [view, same]

theorem view_setExpiryMode (clientId bindingId underlying expiryMode : String) :
    view (manager.setExpiryMode clientId bindingId underlying expiryMode) key =
      if key = (clientId, bindingId, underlying.toUpper) then
        (view manager key).modify (fun engine => { engine with expiryMode := strip expiryMode })
      else view manager key := by
  unfold TrapBookManager.setExpiryMode
  by_cases same : key = (clientId, bindingId, underlying.toUpper)
  · subst same
    cases held : manager.books.lookup (clientId, bindingId, underlying.toUpper) <;>
      simp [view, Slot.modify, held]
  · cases held : manager.books.lookup (clientId, bindingId, underlying.toUpper) <;>
      simp [view, same, held]

/-- A loop over all books that changes each of them. -/
theorem lookup_foldl (books : AList (fun _ : Key => Engine ρ φ))
    (body : AList (fun _ : Key => Engine ρ φ) → Key → AList (fun _ : Key => Engine ρ φ))
    (change : Key → Engine ρ φ → Engine ρ φ)
    (own : ∀ books key, (body books key).lookup key = (books.lookup key).map (change key))
    (other : ∀ books key seen, seen ≠ key → (body books key).lookup seen = books.lookup seen) :
    (books.keys.foldl body books).lookup key = (books.lookup key).map (change key) := by
  have keyed : Keyed (fun books key => AList.lookup key books) body
      (fun key engine => engine.map (change key)) := ⟨own, other⟩
  have read := foldl_view keyed books.keys (AList.keys_nodup books) books key
  refine read.trans ?_
  split
  · rfl
  · rename_i absent
    rw [AList.lookup_eq_none.mpr (fun present => absent (AList.mem_keys.mp present))]
    rfl

theorem view_setRebalancer (rebalancer : ρ) :
    view (manager.setRebalancer rebalancer) key =
      { (view manager key).modify
          (fun engine => { engine with rebalancer := some rebalancer }) with
        rebalancer := some rebalancer } := by
  have books := lookup_foldl key manager.books
    (fun books key => match books.lookup key with
      | none => books
      | some engine => books.insert key { engine with rebalancer := some rebalancer })
    (fun _ engine => { engine with rebalancer := some rebalancer })
    (fun books key => by cases held : books.lookup key <;> simp [held])
    (fun books key seen apart => by cases books.lookup key <;> simp [apart])
  simp only [view, TrapBookManager.setRebalancer, Slot.modify, books]

theorem view_setMcxFeeder (isMcx : String → Bool) (feeder : φ) :
    view (manager.setMcxFeeder isMcx feeder) key =
      { (view manager key).modify (fun engine =>
          if isMcx key.2.2 then { engine with mcxFeeder := some feeder } else engine) with
        mcxFeeder := some feeder } := by
  have books := lookup_foldl key manager.books
    (fun books key => match books.lookup key with
      | none => books
      | some engine =>
          if isMcx key.2.2 then books.insert key { engine with mcxFeeder := some feeder }
          else books)
    (fun key engine => if isMcx key.2.2 then { engine with mcxFeeder := some feeder } else engine)
    (fun books key => by
      cases held : books.lookup key <;> cases isMcx key.2.2 <;> simp [held])
    (fun books key seen apart => by
      cases books.lookup key <;> cases isMcx key.2.2 <;> simp [apart])
  simp only [view, TrapBookManager.setMcxFeeder, Slot.modify, books]

end Settings

/-- What is wired at a spawn is what the manager holds, on MCX also the feeder. -/
def wired (isMcx : Bool) (slot : Slot ρ φ) (engine : Engine ρ φ) : Engine ρ φ :=
  { engine with
    rebalancer := slot.rebalancer
    mcxFeeder := if isMcx then slot.mcxFeeder else none }

/-- A slot under a new engine. -/
def Slot.register (slot : Slot ρ φ) (engine : Engine ρ φ) : Slot ρ φ :=
  { slot with engine := some engine, constructed := slot.constructed + 1 }

theorem wire_construct (isMcx : String → Bool) (manager : TrapBookManager ρ φ) (key : Key)
    (lots : Int) (expiryMode : String) :
    wire isMcx manager key (construct lots expiryMode) =
      wired (isMcx key.2.2) (view manager key) (construct lots expiryMode) := by
  unfold wire wired view construct
  cases manager.rebalancer <;> cases manager.mcxFeeder <;> cases isMcx key.2.2 <;> rfl

/-- A slot after the loop that spawns, for an absent book. -/
def afterSpawn (isMcx : Bool) (want : Option (Int × String)) (constructs : Bool)
    (slot : Slot ρ φ) : Slot ρ φ :=
  match want with
  | none => slot
  | some (lots, expiryMode) =>
      if constructs then
        slot.register (wired isMcx slot (construct lots expiryMode)).start
      else slot

/-- A slot after the loop that re-spawns, for a registered book. -/
def respawned (want : Int × String) (constructs : Bool) (engine : Engine ρ φ)
    (slot : Slot ρ φ) : Slot ρ φ :=
  if Outdated engine want then
    if constructs then slot.register (construct want.1 want.2).start
    else { slot with engine := some engine.stop }
  else slot

def afterRespawn (want : Option (Int × String)) (constructs : Bool) (slot : Slot ρ φ) :
    Slot ρ φ :=
  match want, slot.engine with
  | some settings, some engine => respawned settings constructs engine slot
  | _, _ => slot

/-- A slot after a whole pass. -/
def afterPass (isMcx : Bool) (want : Option (Int × String)) (constructs : Bool)
    (slot : Slot ρ φ) : Slot ρ φ :=
  match want, slot.engine with
  | none, _ => { slot with engine := none }
  | some _, none => afterSpawn isMcx want constructs slot
  | some settings, some engine => respawned settings constructs engine slot

variable (isMcx : String → Bool) (wanted : AList (fun _ : Key => Int × String))
  (constructs : Key → Bool)

theorem view_register_own (manager : TrapBookManager ρ φ) (key : Key) (engine : Engine ρ φ) :
    view (manager.register key engine) key = (view manager key).register engine := by
  simp [view, TrapBookManager.register, Slot.register]

theorem view_register_other (manager : TrapBookManager ρ φ) {key seen : Key}
    (engine : Engine ρ φ) (apart : seen ≠ key) :
    view (manager.register key engine) seen = view manager seen := by
  simp [view, TrapBookManager.register, apart]

theorem keyed_spawn : Keyed (view (ρ := ρ) (φ := φ))
    (fun manager key => manager.spawnBook isMcx wanted constructs key)
    (fun key slot => afterSpawn (isMcx key.2.2) (wanted.lookup key) (constructs key) slot) := by
  constructor
  · intro manager key
    unfold TrapBookManager.spawnBook afterSpawn
    cases wanted.lookup key with
    | none => rfl
    | some settings =>
      obtain ⟨lots, expiryMode⟩ := settings
      dsimp only
      split
      · rw [view_register_own, wire_construct]
      · rfl
  · intro manager key seen apart
    unfold TrapBookManager.spawnBook
    cases wanted.lookup key with
    | none => rfl
    | some settings =>
      dsimp only
      split
      · exact view_register_other manager _ apart
      · rfl

theorem keyed_stop : Keyed (view (ρ := ρ) (φ := φ)) TrapBookManager.stopBook
    (fun _ slot => { slot with engine := none }) := by
  constructor
  · intro manager key
    simp [view, TrapBookManager.stopBook]
  · intro manager key seen apart
    simp [view, TrapBookManager.stopBook, apart]

theorem keyed_respawn : Keyed (view (ρ := ρ) (φ := φ))
    (fun manager key => manager.respawnBook wanted constructs key)
    (fun key slot => afterRespawn (wanted.lookup key) (constructs key) slot) := by
  constructor
  · intro manager key
    unfold TrapBookManager.respawnBook afterRespawn
    cases wanted.lookup key with
    | none => rfl
    | some settings =>
      cases registered : manager.books.lookup key with
      | none => simp [view, registered]
      | some engine =>
        simp only [view, registered, respawned]
        by_cases outdated : Outdated engine settings
        · rw [if_pos outdated, if_pos outdated]
          cases constructs key with
          | true => simp [TrapBookManager.register, Slot.register]
          | false => simp
        · rw [if_neg outdated, if_neg outdated]
          simp [registered]
  · intro manager key seen apart
    unfold TrapBookManager.respawnBook
    cases wanted.lookup key with
    | none => rfl
    | some settings =>
      cases manager.books.lookup key with
      | none => rfl
      | some engine =>
        dsimp only
        split
        · split
          · rw [view_register_other _ _ apart]
            simp [view, apart]
          · simp [view, apart]
        · rfl

variable (manager : TrapBookManager ρ φ) (key : Key)

theorem spawnLoop_view :
    view ((wanted.keys.filter (· ∉ manager.books)).foldl
        (fun manager key => manager.spawnBook isMcx wanted constructs key) manager) key =
      match (view manager key).engine with
      | none => afterSpawn (isMcx key.2.2) (wanted.lookup key) (constructs key) (view manager key)
      | some _ => view manager key := by
  have idle : wanted.lookup key = none →
      afterSpawn (isMcx key.2.2) (wanted.lookup key) (constructs key) (view manager key) =
        view manager key := by
    intro unwanted
    rw [unwanted]
    rfl
  rw [foldl_missing (keyed_spawn isMcx wanted constructs) wanted manager.books manager key idle]
  cases registered : manager.books.lookup key <;> simp [view, registered]

theorem stopLoop_view :
    view ((manager.books.keys.filter (· ∉ wanted)).foldl TrapBookManager.stopBook manager) key =
      match wanted.lookup key with
      | none => { view manager key with engine := none }
      | some _ => view manager key := by
  have idle : manager.books.lookup key = none →
      ({ view manager key with engine := none } : Slot ρ φ) = view manager key := by
    intro absent
    simp [view, absent]
  rw [foldl_missing keyed_stop manager.books wanted manager key idle]
  cases wanted.lookup key <;> rfl

theorem respawnLoop_view :
    view (wanted.keys.foldl
        (fun manager key => manager.respawnBook wanted constructs key) manager) key =
      afterRespawn (wanted.lookup key) (constructs key) (view manager key) := by
  rw [foldl_view (keyed_respawn wanted constructs) _ (AList.keys_nodup _)]
  split
  · rfl
  · rename_i unwanted
    rw [AList.lookup_eq_none.mpr (fun present => unwanted (AList.mem_keys.mp present))]
    rfl

/-- A pass does to every key what its slot says. A book that was just spawned has the
wanted settings, so the last loop leaves it alone. -/
theorem reconcile_view (modes : ∀ settings ∈ wanted.lookup key,
      strip (if settings.2 = "" then "current" else settings.2) = settings.2) :
    view (manager.reconcile isMcx wanted constructs) key =
      afterPass (isMcx key.2.2) (wanted.lookup key) (constructs key) (view manager key) := by
  unfold TrapBookManager.reconcile
  dsimp only
  rw [respawnLoop_view, stopLoop_view, spawnLoop_view]
  cases want : wanted.lookup key with
  | none =>
    cases registered : (view manager key).engine with
    | none => simp [afterRespawn, afterSpawn, afterPass]
    | some engine => simp [afterRespawn, afterPass]
  | some settings =>
    obtain ⟨lots, expiryMode⟩ := settings
    cases registered : (view manager key).engine with
    | some engine => simp [afterRespawn, afterPass, registered]
    | none =>
      have kept := modes _ want
      cases constructs key with
      | false => simp [afterRespawn, afterSpawn, afterPass, registered]
      | true =>
        simp [afterRespawn, afterSpawn, afterPass, respawned, Outdated, Slot.register, wired,
          construct, Engine.start, kept, registered]

end Pass

end OptionChain.TrapBooks
