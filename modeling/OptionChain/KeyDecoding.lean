import OptionChain.InsertionDicts
import OptionChain.Runs
import OptionChain.SharedFeedCodec

/-!
# Decoding the keys of option ticks

The registry maps the contracts of each underlying to instrument keys, and a load replaces
the contracts of its underlying. The Upstox feeder reads a key backwards in a map of its
own, which it builds again when the number of contracts in the registry has changed. A load
that replaces contracts by as many others leaves the map as it was.

`get_option_meta_current_iff` says in which runs every key is decoded to the contract that
it stands for. The diagnostics, the expiries and the futures of the registry, which no
decoding reads, are left out.
-/

namespace OptionChain.KeyDecoding

open Broker InsertionDicts Runs SharedFeedCodec Ticks

/-! ## The registry -/

/-- A contract among those of its underlying: expiry, strike and side. -/
structure ContractKey where
  expStr : String
  strike : Int
  optType : OptType
deriving DecidableEq

/-- A contract as a load reads it, with its instrument key. -/
structure Loaded where
  expiry : CalendarDay
  strike : Int
  optType : OptType
  ikey : String

def Loaded.contract (loaded : Loaded) : ContractKey :=
  ⟨isoformat loaded.expiry, loaded.strike, loaded.optType⟩

/-- The contracts of an underlying and their keys. Every expiry was written by `isoformat`. -/
structure KeyMap where
  keys : Dict ContractKey String
  written : ∀ item ∈ keys.items, ∃ day, item.1.expStr = isoformat day

/-- `keys[(expiry_str, strike, opt_type)] = ikey`, for all contracts of a load. -/
def keysOf (contracts : List Loaded) : KeyMap where
  keys := Dict.ofList (contracts.map fun loaded => (loaded.contract, loaded.ikey))
  written item held := by
    obtain ⟨loaded, _, rfl⟩ := List.mem_map.mp (Dict.assigned_of_mem held)
    exact ⟨loaded.expiry, rfl⟩

/-- `_upstox_keys`. -/
abbrev UpstoxKeys := Dict String KeyMap

def mcxUnderlyings : List String := ["CRUDEOIL", "CRUDEOILM", "NATURALGAS", "GOLD", "SILVER"]

/-- The underlyings of `_UPSTOX_UNDERLYING_KEY`. -/
def upstoxUnderlyings : List String := ["NIFTY", "BANKNIFTY", "FINNIFTY", "MIDCPNIFTY", "SENSEX"]

/-- A load: whether the client library is there, the contracts that the API gives (none
without a token), and those of the master file, unless its download fails. -/
structure Load where
  underlying : String
  sdk : Bool
  api : List Loaded
  master : Option (List Loaded)

/-- `_load_mcx` and `_load_from_master_json`. -/
def loadMaster (registry : UpstoxKeys) (underlying : String) : Option (List Loaded) → UpstoxKeys
  | none => registry
  | some contracts => registry.set underlying (keysOf contracts)

/-- `load_sync`. -/
def loadSync (registry : UpstoxKeys) (load : Load) : UpstoxKeys :=
  if load.underlying.toUpper ∈ mcxUnderlyings then
    loadMaster registry load.underlying.toUpper load.master
  else if !load.sdk then registry
  else if load.underlying ∉ upstoxUnderlyings then registry
  else if load.api.isEmpty then loadMaster registry load.underlying load.master
  else registry.set load.underlying (keysOf load.api)

/-! ## The feeder -/

/-- What a key is decoded to. -/
structure OptionMeta where
  underlying : String
  strike : Int
  optType : OptType
  expiry : CalendarDay
deriving DecidableEq

/-- `_rev_map` and `_rev_map_size`. -/
structure RevMap where
  entries : Dict String OptionMeta
  size : Nat

def total (registry : UpstoxKeys) : Nat :=
  (registry.items.map fun item => item.2.keys.items.length).sum

/-- What the rebuild assigns for a contract of an underlying, unless its expiry is no date. -/
def reversed (underlying : String) (item : ContractKey × String) : Option (String × OptionMeta) :=
  (fromisoformat item.1.expStr).map fun expiry =>
    (item.2, ⟨underlying, item.1.strike, item.1.optType, expiry⟩)

def assignments (registry : UpstoxKeys) : List (String × OptionMeta) :=
  registry.items.flatMap fun item => item.2.keys.items.filterMap (reversed item.1)

def rebuild (registry : UpstoxKeys) : RevMap := ⟨Dict.ofList (assignments registry), total registry⟩

/-- The registry, and the map of a feeder that has received a key. -/
structure Feed where
  registry : UpstoxKeys := Dict.empty
  revMap : Option RevMap := none

/-- `not hasattr(self, "_rev_map") or total != self._rev_map_size`. -/
def outdated (feed : Feed) : Bool :=
  match feed.revMap with
  | none => true
  | some revMap => decide (total feed.registry ≠ revMap.size)

def refreshed (feed : Feed) : RevMap :=
  match feed.revMap with
  | none => rebuild feed.registry
  | some revMap => if total feed.registry ≠ revMap.size then rebuild feed.registry else revMap

/-- `_get_option_meta`. -/
def getOptionMeta (feed : Feed) (instKey : String) : Option OptionMeta :=
  (refreshed feed).entries.get? instKey

inductive Event where
  | load (load : Load)
  | receive (instKey : String)

def step (feed : Feed) : Event → Feed
  | .load load => { feed with registry := loadSync feed.registry load }
  | .receive _ => { feed with revMap := some (refreshed feed) }

/-! ## The law and the condition -/

/-- The registry maps a contract to a key. -/
def Maps (registry : UpstoxKeys) (contract : OptionMeta) (key : String) : Prop :=
  ∃ keyMap, registry.get? contract.underlying = some keyMap ∧
    keyMap.keys.get? ⟨isoformat contract.expiry, contract.strike, contract.optType⟩ = some key

/-- No two contracts have one key. -/
def UniqueKeys (registry : UpstoxKeys) : Prop :=
  ∀ contract other key, Maps registry contract key → Maps registry other key → contract = other

/-- The keys are unique wherever one is received. -/
def UniqueAt (feed : Feed) : Event → Prop
  | .load _ => True
  | .receive _ => UniqueKeys feed.registry

/-- A key is decoded to the contract that the registry maps to it, and to none if there is no
such contract. -/
def Current (feed : Feed) : Event → Prop
  | .load _ => True
  | .receive key => ∀ contract,
      getOptionMeta feed key = some contract ↔ Maps feed.registry contract key

/-- A feed, and the registry from which its map was built last. -/
structure Watched where
  feed : Feed := {}
  built : Option UpstoxKeys := none

def watchStep (watched : Watched) (event : Event) : Watched where
  feed := step watched.feed event
  built :=
    match event with
    | .load _ => watched.built
    | .receive _ => if outdated watched.feed then some watched.feed.registry else watched.built

/-- If the registry has as many contracts as when the map was built, the key that is received
stands for the same contract as then, or for none as then. -/
def InStep (watched : Watched) : Event → Prop
  | .load _ => True
  | .receive key => ∀ built, watched.built = some built →
      total watched.feed.registry = total built →
        ∀ contract, Maps watched.feed.registry contract key ↔ Maps built contract key

/-! ## What a rebuild holds -/

section Rebuild

variable {registry : UpstoxKeys} {contract : OptionMeta} {key : String}

theorem mem_assignments : (key, contract) ∈ assignments registry ↔ Maps registry contract key := by
  rw [assignments, List.mem_flatMap]
  constructor
  · rintro ⟨⟨underlying, keyMap⟩, loaded, member⟩
    obtain ⟨⟨stored, storedKey⟩, held, read⟩ := List.mem_filterMap.mp member
    obtain ⟨day, text⟩ := keyMap.written _ held
    rw [reversed, text, fromisoformat_isoformat] at read
    cases read
    refine ⟨keyMap, Dict.get?_eq_some.mpr loaded, Dict.get?_eq_some.mpr ?_⟩
    rw [← text]
    exact held
  · rintro ⟨keyMap, loaded, held⟩
    refine ⟨_, Dict.get?_eq_some.mp loaded, List.mem_filterMap.mpr
      ⟨_, Dict.get?_eq_some.mp held, ?_⟩⟩
    rw [reversed, fromisoformat_isoformat]
    rfl

/-- A map that was built from unique keys decodes as its registry. -/
theorem rebuild_current (unique : UniqueKeys registry) :
    (rebuild registry).entries.get? key = some contract ↔ Maps registry contract key := by
  rw [Dict.get?_eq_some, ← mem_assignments]
  constructor
  · exact Dict.assigned_of_mem
  · intro assigned
    apply Dict.mem_ofList _ assigned
    intro other alike
    exact unique other contract key (mem_assignments.mp alike) (mem_assignments.mp assigned)

end Rebuild

/-! ## Runs -/

/-- The map of a feeder is the one of the registry from which it was built, whose keys were
unique. -/
def Consistent (watched : Watched) : Prop :=
  match watched.feed.revMap, watched.built with
  | none, none => True
  | some revMap, some built => revMap = rebuild built ∧ UniqueKeys built
  | _, _ => False

section Step

variable {watched : Watched} {key : String}

/-- What is read from after a lookup. -/
theorem refreshed_cases (consistent : Consistent watched) :
    (outdated watched.feed = true ∧ refreshed watched.feed = rebuild watched.feed.registry ∧
      ∀ built, watched.built = some built → total watched.feed.registry ≠ total built) ∨
    ∃ built, watched.built = some built ∧ UniqueKeys built ∧ outdated watched.feed = false ∧
      refreshed watched.feed = rebuild built ∧ total watched.feed.registry = total built := by
  obtain ⟨⟨registry, cached⟩, before⟩ := watched
  cases cached with
  | none =>
    cases before with
    | none => exact .inl ⟨rfl, rfl, fun built none => by cases none⟩
    | some built => exact consistent.elim
  | some revMap =>
    cases before with
    | none => exact consistent.elim
    | some built =>
      obtain ⟨rfl, unique⟩ := consistent
      by_cases same : total registry = total built
      · refine .inr ⟨built, rfl, unique, ?_, ?_, same⟩
        · exact decide_eq_false (not_not.mpr same)
        · exact if_neg (not_not.mpr same)
      · refine .inl ⟨decide_eq_true same, if_pos same, ?_⟩
        intro other found
        cases found
        exact same

theorem watchStep_consistent (consistent : Consistent watched) {event : Event}
    (unique : UniqueAt watched.feed event) : Consistent (watchStep watched event) := by
  cases event with
  | load load => exact consistent
  | receive key =>
    rcases refreshed_cases consistent with ⟨anew, read, _⟩ | ⟨built, was, kept, old, read, _⟩
    · rw [Consistent, watchStep, step, read]
      dsimp only
      rw [if_pos anew]
      exact ⟨rfl, unique⟩
    · rw [Consistent, watchStep, step, read]
      dsimp only
      rw [if_neg (by rw [old]; exact Bool.false_ne_true), was]
      exact ⟨rfl, kept⟩

/-- With unique keys, a lookup is current exactly if it is in step. -/
theorem current_iff (consistent : Consistent watched) {event : Event}
    (unique : UniqueAt watched.feed event) :
    Current watched.feed event ↔ InStep watched event := by
  cases event with
  | load load => exact Iff.rfl
  | receive key =>
    rw [Current, InStep]
    simp only [getOptionMeta]
    rcases refreshed_cases consistent with ⟨_, read, differs⟩ | ⟨built, was, kept, _, read, same⟩
    · rw [read]
      constructor
      · intro _ built found equal
        exact absurd equal (differs built found)
      · intro _ contract
        exact rebuild_current unique
    · rw [read]
      constructor
      · intro current other found _ contract
        cases was.symm.trans found
        rw [← current, rebuild_current kept]
      · intro inStep contract
        rw [rebuild_current kept, inStep built was same]

end Step

theorem along_feed (ok : Feed → Event → Prop) (events : List Event) :
    Along step ok {} events ↔
      Along watchStep (fun watched event => ok watched.feed event) {} events :=
  (along_part watchStep Watched.feed (fun _ _ => rfl) ok {} events).symm

/-- Where the keys are unique, every key of a run is decoded to the contract that the registry
maps to it exactly if, whenever the registry has as many contracts as at the last rebuild, the
key stands for what it stood for then. -/
theorem get_option_meta_current_iff (events : List Event)
    (unique : Along step UniqueAt {} events) :
    Along step Current {} events ↔ Along watchStep InStep {} events := by
  rw [along_feed] at unique ⊢
  exact along_iff watchStep (fun _ _ consistent one _ => watchStep_consistent consistent one)
    (fun _ _ consistent one => current_iff consistent one) {} events trivial unique

/-! ## One contract after the other -/

theorem isoformat_injective : Function.Injective isoformat := by
  intro first second same
  have read := fromisoformat_isoformat first
  rw [same, fromisoformat_isoformat] at read
  exact (Option.some.inj read).symm

/-- The one contract of a load. -/
def Loaded.of (loaded : Loaded) (underlying : String) : OptionMeta :=
  ⟨underlying, loaded.strike, loaded.optType, loaded.expiry⟩

theorem not_maps_empty {contract : OptionMeta} {key : String} : ¬ Maps Dict.empty contract key := by
  rintro ⟨keyMap, loaded, _⟩
  cases loaded

theorem keysOf_single {loaded : Loaded} {contract : ContractKey} {key : String} :
    (keysOf [loaded]).keys.get? contract = some key ↔
      contract = loaded.contract ∧ key = loaded.ikey := by
  rw [Dict.get?_eq_some]
  change (contract, key) ∈ [(loaded.contract, loaded.ikey)] ↔ _
  rw [List.mem_singleton, Prod.mk.injEq]

theorem maps_set {registry : UpstoxKeys} {underlying key : String} {loaded : Loaded}
    {contract : OptionMeta} :
    Maps (registry.set underlying (keysOf [loaded])) contract key ↔
      contract = loaded.of underlying ∧ key = loaded.ikey ∨
        contract.underlying ≠ underlying ∧ Maps registry contract key := by
  obtain ⟨name, strike, optType, expiry⟩ := contract
  constructor
  · rintro ⟨keyMap, found, held⟩
    rcases Dict.mem_set.mp (Dict.get?_eq_some.mp found) with new | ⟨other, old⟩
    · cases new
      obtain ⟨same, rfl⟩ := keysOf_single.mp held
      rw [Loaded.contract, ContractKey.mk.injEq] at same
      obtain ⟨written, rfl, rfl⟩ := same
      have day : expiry = loaded.expiry := isoformat_injective written
      subst day
      exact .inl ⟨rfl, rfl⟩
    · exact .inr ⟨other, keyMap, Dict.get?_eq_some.mpr old, held⟩
  · rintro (⟨same, rfl⟩ | ⟨other, keyMap, found, held⟩)
    · cases same
      exact ⟨_, Dict.get?_eq_some.mpr (Dict.mem_set.mpr (.inl rfl)), keysOf_single.mpr ⟨rfl, rfl⟩⟩
    · exact ⟨keyMap, Dict.get?_eq_some.mpr
        (Dict.mem_set.mpr (.inr ⟨other, Dict.get?_eq_some.mp found⟩)), held⟩

theorem loadSync_known (registry : UpstoxKeys) {underlying : String}
    (known : underlying ∈ upstoxUnderlyings) (loaded : Loaded) :
    loadSync registry ⟨underlying, true, [loaded], none⟩ =
      registry.set underlying (keysOf [loaded]) := by
  have indices : underlying.toUpper ∉ mcxUnderlyings := by
    have upper : underlying.toUpper = underlying := by
      apply String.toList_injective
      simp only [upstoxUnderlyings, List.mem_cons, List.not_mem_nil, or_false] at known
      rcases known with rfl | rfl | rfl | rfl | rfl <;> simp [String.toUpper]
    rw [upper]
    simp only [upstoxUnderlyings, List.mem_cons, List.not_mem_nil, or_false] at known
    rcases known with rfl | rfl | rfl | rfl | rfl <;> decide
  rw [loadSync, if_neg indices]
  exact if_neg (not_not.mpr known)

theorem june_valid : 1 ≤ 6 ∧ 6 ≤ 12 := by decide

theorem second_valid : 1 ≤ 2 ∧ 2 ≤ CivilDates.daysInMonth 2026 6 := by decide

theorem year_inRange : 1 ≤ 2026 ∧ 2026 ≤ 9999 := by decide

def secondOfJune : CalendarDay := ⟨⟨2026, 6, 2, june_valid, second_valid⟩, year_inRange⟩

def call (strike : Int) (ikey : String) : Loaded := ⟨secondOfJune, strike, .ce, ikey⟩

/-- A load of one call. -/
def loadCall (underlying : String) (strike : Int) (ikey : String) : Event :=
  .load ⟨underlying, true, [call strike ikey], none⟩

/-- A second load, of some underlying, between the first tick of each of two keys. -/
def secondLoad (underlying : String) : List Event :=
  [loadCall "NIFTY" 24500 "NSE_FO|1", .receive "NSE_FO|1",
    loadCall underlying 24600 "NSE_FO|2", .receive "NSE_FO|2"]

/-- The registries of these two ticks. -/
def firstRegistry : UpstoxKeys := Dict.empty.set "NIFTY" (keysOf [call 24500 "NSE_FO|1"])

def secondRegistry (underlying : String) : UpstoxKeys :=
  firstRegistry.set underlying (keysOf [call 24600 "NSE_FO|2"])

theorem maps_first {contract : OptionMeta} {key : String} :
    Maps firstRegistry contract key ↔
      contract = (call 24500 "NSE_FO|1").of "NIFTY" ∧ key = "NSE_FO|1" := by
  rw [firstRegistry, maps_set, or_iff_left fun old => not_maps_empty old.2]
  rfl

theorem unique_first : UniqueKeys firstRegistry := by
  intro contract other key one two
  rw [(maps_first.mp one).1, (maps_first.mp two).1]

theorem unique_second (underlying : String) : UniqueKeys (secondRegistry underlying) := by
  intro contract other key one two
  rw [secondRegistry, maps_set, maps_first] at one two
  have different : "NSE_FO|2" ≠ "NSE_FO|1" := by decide
  rcases one with ⟨rfl, rfl⟩ | ⟨_, rfl, rfl⟩
  · rcases two with ⟨rfl, _⟩ | ⟨_, _, same⟩
    · rfl
    · exact absurd same different
  · rcases two with ⟨_, same⟩ | ⟨_, rfl, _⟩
    · exact absurd same.symm different
    · rfl

theorem nifty_known : "NIFTY" ∈ upstoxUnderlyings := by decide

theorem step_loadCall {feed : Feed} {underlying : String} (known : underlying ∈ upstoxUnderlyings)
    (strike : Int) (ikey : String) : step feed (loadCall underlying strike ikey) =
      { feed with registry := feed.registry.set underlying (keysOf [call strike ikey]) } := by
  rw [loadCall, step, loadSync_known _ known]

/-- A condition that looks at ticks only holds along the run if it does at the two ticks. -/
theorem along_secondLoad {underlying : String} (known : underlying ∈ upstoxUnderlyings)
    (ok : Watched → Event → Prop) (loads : ∀ watched load, ok watched (.load load)) :
    Along watchStep ok {} (secondLoad underlying) ↔
      ok ⟨⟨firstRegistry, none⟩, none⟩ (.receive "NSE_FO|1") ∧
        ok ⟨⟨secondRegistry underlying, some (rebuild firstRegistry)⟩, some firstRegistry⟩
          (.receive "NSE_FO|2") := by
  have first : watchStep {} (loadCall "NIFTY" 24500 "NSE_FO|1") =
      ⟨⟨firstRegistry, none⟩, none⟩ :=
    congrArg (Watched.mk · none) (@step_loadCall {} _ nifty_known 24500 "NSE_FO|1")
  have tick : watchStep ⟨⟨firstRegistry, none⟩, none⟩ (.receive "NSE_FO|1") =
      ⟨⟨firstRegistry, some (rebuild firstRegistry)⟩, some firstRegistry⟩ := rfl
  have second : watchStep ⟨⟨firstRegistry, some (rebuild firstRegistry)⟩, some firstRegistry⟩
      (loadCall underlying 24600 "NSE_FO|2") =
      ⟨⟨secondRegistry underlying, some (rebuild firstRegistry)⟩, some firstRegistry⟩ :=
    congrArg (Watched.mk · (some firstRegistry))
      (@step_loadCall ⟨firstRegistry, some (rebuild firstRegistry)⟩ _ known 24600 "NSE_FO|2")
  rw [secondLoad, Along, first, Along, tick, Along, second, Along, Along, and_true]
  exact (and_iff_right (loads _ _)).trans (and_congr_right fun _ => and_iff_right (loads _ _))

theorem unique_secondLoad {underlying : String} (known : underlying ∈ upstoxUnderlyings) :
    Along step UniqueAt {} (secondLoad underlying) := by
  rw [along_feed, along_secondLoad known _ fun _ _ => trivial]
  exact ⟨unique_first, unique_second underlying⟩

/-- A load of a second underlying makes the feeder build its map again. -/
theorem current_after_another_underlying : Along step Current {} (secondLoad "BANKNIFTY") := by
  have known : "BANKNIFTY" ∈ upstoxUnderlyings := by decide
  refine (get_option_meta_current_iff _ (unique_secondLoad known)).mpr ?_
  rw [along_secondLoad known InStep fun _ _ => trivial]
  constructor
  · intro built none
    cases none
  · intro built found same
    cases found
    cases same

/-- A load of as many contracts of the same underlying does not: the key of the new contract is
decoded to none. -/
theorem stale_after_the_same_underlying : ¬ ∀ events, Along step UniqueAt {} events →
    Along step Current {} events := by
  intro current
  have run := current _ (unique_secondLoad nifty_known)
  rw [along_feed, along_secondLoad nifty_known _ fun _ _ => trivial] at run
  have maps : Maps (secondRegistry "NIFTY") ((call 24600 "NSE_FO|2").of "NIFTY") "NSE_FO|2" :=
    maps_set.mpr (.inl ⟨rfl, rfl⟩)
  have decoded := (run.2 _).mpr maps
  have stale : refreshed ⟨secondRegistry "NIFTY", some (rebuild firstRegistry)⟩ =
      rebuild firstRegistry := rfl
  rw [getOptionMeta, stale, rebuild_current unique_first, maps_first] at decoded
  exact absurd decoded.2 (by decide)

end OptionChain.KeyDecoding
