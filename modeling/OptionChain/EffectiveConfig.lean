import OptionChain.RuntimeConfig
import OptionChain.Runs

/-!
# The shown configuration and the effective one

From any file that keeps the dictionaries of the defaults, every call whose patch keeps
them leaves a live copy that covers the defaults. Such a copy absorbs them: loading it
again and showing it merged into the defaults change nothing.
-/

namespace OptionChain.EffectiveConfig

open MergedTrees RuntimeConfig Runs

inductive Op where
  | update (patch : Config)
  | setIndexSection (index strategy : String) (data : Config)

/-- A dictionary of one entry. -/
def single (key : String) (inner : Config) : Config := Dict.empty.set key inner.node

/-- What a call asks for, seen from the top of the configuration. -/
def Op.patch : Op → Config
  | .update patch => patch
  | .setIndexSection index strategy data =>
    single "indices" (single index (single strategy data))

/-- What a call leaves, unless it raises. -/
def call (state : State) : Op → Option State
  | .update patch => some (update state patch)
  | .setIndexSection index strategy data => setIndexSection state index strategy data

/-- A call that raises has at most loaded the configuration. -/
def step (state : State) (op : Op) : State := (call state op).getD (ensureLoaded state)

/-- The patch of a call that returns. -/
def returned (state : State) (op : Op) : List Config :=
  if (call state op).isSome then [op.patch] else []

/-- The configuration as it is first loaded. -/
def loaded (file : Option Config) : State := ensureLoaded { disk := file }

/-- The state after some calls, and the patches of those that returned. -/
def after (file : Option Config) (ops : List Op) : State := run step (loaded file) ops

def patches (file : Option Config) (ops : List Op) : List Config :=
  sent step returned (loaded file) ops

/-- Every section that is shown is the one handed to the strategy, and has every key of
its default. -/
def ShowsEffective (state : State) : Prop :=
  ∃ shown, getAllIndices state = some shown ∧
    ∀ index sections, shown.get? index = some sections →
      ∀ strategy sect, sections.child strategy = some sect →
        indexSection state index strategy = some sect ∧
        ∀ path, buildIndexDefaults.node.read (index :: strategy :: path) ≠ .absent →
          sect.read path ≠ .absent

/-- What holds after any calls from a file. A patch has its say on a path when it has
something there or a leaf above it. -/
structure Effective (file : Option Config) (ops : List Op) : Prop where
  kept : ∀ path, (∀ patch ∈ patches file ops, patch.node.touches path = false) →
    (after file ops).live.node.read path = (loaded file).live.node.read path
  patched : ∀ before patch later path, patches file ops = before ++ patch :: later →
    patch.node.touches path = true → (∀ other ∈ later, other.node.touches path = false) →
      (after file ops).live.node.read path = patch.node.read path
  /-- A call raises exactly if it saves a section of an index that is a leaf. -/
  raises : ∀ before op rest, ops = before ++ op :: rest →
    (call (after file before) op = none ↔ ∃ index strategy data value,
      op = .setIndexSection index strategy data ∧
        (after file before).live.node.read ["indices", index] = .leaf value)
  reload : reloadFromDisk (after file ops) = after file ops
  shows : ShowsEffective (after file ops)

/-! ## A loaded configuration -/

/-- The live copy covers the defaults and is what the file loads to. -/
structure Loaded (state : State) : Prop where
  covers : defaults.node.CoveredBy state.live.node
  synced : reloadFromDisk state = state

/-- What covers a dictionary is one. -/
theorem dict_of_covered {inner : Config} {other : Value} (covered : inner.node.CoveredBy other) :
    ∃ config : Config, other = config.node := by
  cases other with
  | leaf value => exact covered.elim
  | dict keys entries => exact ⟨⟨keys, entries⟩, rfl⟩

/-- A section of what is covered is covered by the section of what covers it. -/
theorem section_covered {base config inner : Config} {key : String}
    (covered : base.node.CoveredBy config.node) (found : base.get? key = some inner.node) :
    ∃ other : Config, config.get? key = some other.node ∧ inner.node.CoveredBy other.node := by
  obtain ⟨node, there, below⟩ := Node.child_covered covered found
  obtain ⟨other, rfl⟩ := dict_of_covered below
  exact ⟨other, there, below⟩

theorem truthy_iff (config : Config) : truthy config.node = true ↔ config.keys ≠ ∅ := by
  simp [truthy, Dict.node]

theorem defaults_indices : defaults.get? "indices" = some buildIndexDefaults.node :=
  Dict.get?_update_of_mem (by decide) (by simp)

/-- Every index has its two sections by default. -/
theorem indexDefaults_get {index : String} (listed : index ∈ allIndices) :
    buildIndexDefaults.get? index = some (dictOf (sectionDefaults index)).node := by
  apply Dict.get?_update_of_mem
  · simp only [List.map_map]
    decide
  · simp only [List.map_map, List.mem_map]
    exact ⟨index, listed, rfl⟩

theorem sectionDefaults_get {index : String} {entry : String × Config}
    (listed : entry ∈ sectionDefaults index) :
    (dictOf (sectionDefaults index)).get? entry.1 = some entry.2.node := by
  apply Dict.get?_update_of_mem
  · simp [sectionDefaults]
  · exact List.mem_map.mpr ⟨entry, listed, rfl⟩

theorem loaded_indices {state : State} (loaded : Loaded state) :
    ∃ indices : Config, state.live.get? "indices" = some indices.node ∧
      buildIndexDefaults.node.CoveredBy indices.node :=
  section_covered loaded.covers defaults_indices

theorem ensureLoaded_of_loaded {state : State} (loaded : Loaded state) :
    ensureLoaded state = state := by
  obtain ⟨indices, found, _⟩ := loaded_indices loaded
  have listed : "indices" ∈ state.live.keys :=
    (Dict.get?_isSome state.live "indices").mp (by simp [found])
  rw [ensureLoaded, if_pos ((truthy_iff state.live).mpr (Finset.ne_empty_of_mem listed))]

/-- A file that keeps the dictionaries of the defaults loads to a loaded configuration. -/
theorem loaded_start {file : Option Config}
    (shaped : ∀ config ∈ file, defaults.node.KeptBy config.node) : Loaded (loaded file) := by
  have kept : defaults.node.KeptBy (file.getD Dict.empty).node := by
    cases file with
    | none => exact fun key found there => absurd there (Finset.notMem_empty key)
    | some config => exact shaped config rfl
  have covers : defaults.node.CoveredBy (defaults.merge (file.getD Dict.empty)).node :=
    Node.coveredBy_merge (Node.coveredBy_refl defaults.node) kept
  exact ⟨covers, rfl⟩

/-- Writing a copy that covers the defaults leaves a loaded configuration. -/
theorem loaded_saved {live : Config} (covers : defaults.node.CoveredBy live.node) :
    Loaded (saved live) := by
  have absorbed : defaults.merge live = live := Dict.merge_of_coveredBy covers
  exact ⟨covers, congrArg (fun config => State.mk config (some live)) absorbed⟩

/-! ## One call -/

@[simp] theorem asDict_node (config : Config) : asDict config.node = some config := rfl

theorem getDict_some {config : Config} {key : String} {node : Value}
    (found : config.get? key = some node) : getDict config key = node := by
  rw [getDict, found]
  rfl

theorem getDict_none {config : Config} {key : String} (absent : config.get? key = none) :
    getDict config key = Dict.empty.node := by
  rw [getDict, absent]
  rfl

theorem merge_single (config : Config) (key : String) (inner : Config) :
    config.merge (single key inner) = config.set key
      ((config.get? key).elim inner.node (fun before => before.merge inner.node)) :=
  Dict.merge_single config key inner.node

/-- Within its index a section is saved as its patch is merged. -/
theorem section_merged (sect : Config) (strategy : String) (data : Config) :
    sect.set strategy (mergeSection (getDict sect strategy) data).node =
      sect.merge (single strategy data) := by
  rw [merge_single]
  cases found : sect.get? strategy with
  | none => simp [getDict_none found, mergeSection]
  | some node =>
    rw [getDict_some found]
    cases node <;> rfl

/-- A section is saved as its patch is merged, unless its index is a leaf. -/
theorem setSection_cases {live indices : Config} (found : live.get? "indices" = some indices.node)
    (index strategy : String) (data : Config) :
    (∃ value, indices.get? index = some (.leaf value) ∧
      setSection live index strategy data = none) ∨
    ((∀ value, indices.get? index ≠ some (.leaf value)) ∧
      setSection live index strategy data =
        some (live.merge (Op.setIndexSection index strategy data).patch)) := by
  have top : live.merge (Op.setIndexSection index strategy data).patch =
      live.set "indices" (indices.merge (single index (single strategy data))).node := by
    rw [Op.patch, merge_single, found]
    rfl
  simp only [setSection, getDict_some found, asDict_node, Option.bind_eq_bind, Option.bind_some,
    section_merged]
  rw [top, merge_single indices]
  cases stored : indices.get? index with
  | none =>
    right
    simp [getDict_none stored, single]
  | some node =>
    rw [getDict_some stored]
    cases node with
    | leaf value => exact Or.inl ⟨value, rfl, rfl⟩
    | dict keys entries =>
      right
      refine ⟨fun _ => nofun, ?_⟩
      simp only [asDict, Option.bind_some]
      rfl

/-- The index of a section is read as a leaf exactly if it is one. -/
theorem read_index {live indices : Config} (found : live.get? "indices" = some indices.node)
    (index : String) (value : Leaf) :
    live.node.read ["indices", index] = .leaf value ↔
      indices.get? index = some (.leaf value) := by
  simp only [Node.read, Node.child_node, found]
  cases indices.get? index with
  | none => simp
  | some node => cases node <;> simp [Node.kind]

/-- A call on a loaded configuration merges its patch and writes the result, or raises. -/
theorem call_cases {state : State} (loaded : Loaded state) (op : Op) :
    (call state op = none ∧ ∃ index strategy data value,
      op = .setIndexSection index strategy data ∧
        state.live.node.read ["indices", index] = .leaf value) ∨
    (call state op = some (saved (state.live.merge op.patch)) ∧
      ∀ index strategy data value, op = .setIndexSection index strategy data →
        state.live.node.read ["indices", index] ≠ .leaf value) := by
  have same := ensureLoaded_of_loaded loaded
  cases op with
  | update patch =>
    right
    exact ⟨by rw [call, update, same]; rfl, fun _ _ _ _ => nofun⟩
  | setIndexSection index strategy data =>
    obtain ⟨indices, found, _⟩ := loaded_indices loaded
    rw [call, setIndexSection, same]
    obtain ⟨value, leaf, raised⟩ | ⟨inner, merged⟩ := setSection_cases found index strategy data
    · left
      refine ⟨by rw [raised]; rfl, index, strategy, data, value, rfl, ?_⟩
      exact (read_index found index value).mpr leaf
    · right
      refine ⟨by rw [merged]; rfl, ?_⟩
      rintro _ _ _ value ⟨⟩
      exact mt (read_index found index value).mp (inner value)

theorem step_cases {state : State} (loaded : Loaded state) (op : Op) :
    (step state op = state ∧ returned state op = []) ∨
    (step state op = saved (state.live.merge op.patch) ∧ returned state op = [op.patch]) := by
  unfold step returned
  obtain ⟨raised, _⟩ | ⟨merged, _⟩ := call_cases loaded op
  · rw [raised]
    exact Or.inl ⟨ensureLoaded_of_loaded loaded, rfl⟩
  · rw [merged]
    exact Or.inr ⟨rfl, rfl⟩

theorem loaded_step {state : State} {op : Op} (loaded : Loaded state)
    (kept : defaults.node.KeptBy op.patch.node) : Loaded (step state op) := by
  obtain ⟨same, _⟩ | ⟨merged, _⟩ := step_cases loaded op
  · rw [same]
    exact loaded
  · rw [merged]
    exact loaded_saved (Node.coveredBy_merge loaded.covers kept)

/-! ## Whole runs -/

theorem loaded_run {state : State} {ops : List Op} (loaded : Loaded state)
    (kept : ∀ op ∈ ops, defaults.node.KeptBy op.patch.node) : Loaded (run step state ops) := by
  induction ops generalizing state with
  | nil => exact loaded
  | cons op rest inductionHypothesis =>
    obtain ⟨first, later⟩ := List.forall_mem_cons.mp kept
    exact inductionHypothesis (loaded_step loaded first) later

/-- The live copy is what was loaded with the patches of the calls that returned merged
in, one after the other. -/
theorem live_run {state : State} {ops : List Op} (loaded : Loaded state)
    (kept : ∀ op ∈ ops, defaults.node.KeptBy op.patch.node) :
    (run step state ops).live = (sent step returned state ops).foldl Dict.merge state.live := by
  induction ops generalizing state with
  | nil => rfl
  | cons op rest inductionHypothesis =>
    obtain ⟨first, later⟩ := List.forall_mem_cons.mp kept
    have onward := inductionHypothesis (loaded_step loaded first) later
    rw [run_cons, onward, sent, List.foldl_append]
    obtain ⟨same, silent⟩ | ⟨merged, spoken⟩ := step_cases loaded op
    · rw [same, silent, List.foldl_nil]
    · rw [merged, spoken]
      rfl

/-- Patches that have no say on a path leave it. -/
theorem read_untouched_all {base : Config} {merged : List Config} {path : List String}
    (untouched : ∀ patch ∈ merged, patch.node.touches path = false) :
    (merged.foldl Dict.merge base).node.read path = base.node.read path := by
  induction merged generalizing base with
  | nil => rfl
  | cons patch rest inductionHypothesis =>
    obtain ⟨first, later⟩ := List.forall_mem_cons.mp untouched
    rw [List.foldl_cons, inductionHypothesis later, ← merge_node, Node.read_merge]
    simp [first]

/-- The last patch that has a say on a path decides it. -/
theorem read_last {base patch : Config} {before later : List Config} {path : List String}
    (touched : patch.node.touches path = true)
    (untouched : ∀ other ∈ later, other.node.touches path = false) :
    ((before ++ patch :: later).foldl Dict.merge base).node.read path = patch.node.read path := by
  rw [List.foldl_append, List.foldl_cons, read_untouched_all untouched, ← merge_node,
    Node.read_merge, if_pos touched]

/-! ## What is shown -/

/-- A traversal in which every element succeeds. -/
theorem mapM_total {α β : Type} {f : α → Option β} {related : α → β → Prop} {items : List α}
    (total : ∀ item ∈ items, ∃ result, f item = some result ∧ related item result) :
    ∃ results, items.mapM f = some results ∧
      ∀ result ∈ results, ∃ item ∈ items, related item result := by
  induction items with
  | nil => exact ⟨[], rfl, fun _ => nofun⟩
  | cons item rest inductionHypothesis =>
    obtain ⟨here, later⟩ := List.forall_mem_cons.mp total
    obtain ⟨result, found, holds⟩ := here
    obtain ⟨results, others, all⟩ := inductionHypothesis later
    refine ⟨result :: results, by simp [List.mapM_cons, found, others], ?_⟩
    intro one listed
    rcases List.mem_cons.mp listed with rfl | there
    · exact ⟨item, List.mem_cons_self, holds⟩
    · obtain ⟨other, known, related⟩ := all one there
      exact ⟨other, List.mem_cons_of_mem item known, related⟩

/-- What a dictionary of dictionaries answers is one of them. -/
theorem mem_of_dictOf {sections : List (String × Config)} {key : String} {node : Value}
    (found : (dictOf sections).get? key = some node) :
    ∃ config, (key, config) ∈ sections ∧ node = config.node := by
  obtain ⟨entry, listed, same⟩ := List.mem_map.mp (Dict.mem_of_get?_ofList found)
  obtain ⟨rfl, rfl⟩ := Prod.mk.inj same
  exact ⟨entry.2, listed, rfl⟩

theorem sectionDefaults_nonempty :
    ∀ index ∈ allIndices, ∀ entry ∈ sectionDefaults index, entry.2.keys ≠ ∅ := by
  decide +kernel

/-- The section that the strategies are handed: it is stored, and covers its default. -/
structure Stored (state : State) (index : String) (entry shown : String × Config) : Prop where
  name : shown.1 = entry.1
  covers : entry.2.node.CoveredBy shown.2.node
  handed : indexSection state index entry.1 = some shown.2.node

/-- Each default section is shown as it is stored. -/
theorem shownSection_stored {state : State} {index : String} {indices : Config}
    {entry : String × Config} (loaded : Loaded state) (listed : index ∈ allIndices)
    (known : entry ∈ sectionDefaults index)
    (found : state.live.get? "indices" = some indices.node)
    (covered : buildIndexDefaults.node.CoveredBy indices.node) :
    ∃ shown, shownSection indices index entry = some shown ∧ Stored state index entry shown := by
  obtain ⟨sect, there, inner⟩ := section_covered covered (indexDefaults_get listed)
  obtain ⟨stored, held, covers⟩ := section_covered inner (sectionDefaults_get known)
  have merged : entry.2.merge stored = stored := Dict.merge_of_coveredBy covers
  refine ⟨(entry.1, stored), ?_, rfl, covers, ?_⟩
  · simp [shownSection, getDict_some there, getDict_some held, merged]
  · have some_key : stored.keys ≠ ∅ := by
      obtain ⟨key, first⟩ := Finset.nonempty_iff_ne_empty.mpr
        (sectionDefaults_nonempty index listed entry known)
      obtain ⟨also, _⟩ := covers key first
      exact Finset.ne_empty_of_mem also
    have full := (truthy_iff stored).mpr some_key
    simp [indexSection, ensureLoaded_of_loaded loaded, getDict_some found, getDict_some there,
      getDict_some held, full]

theorem shows_of_loaded {state : State} (loaded : Loaded state) : ShowsEffective state := by
  obtain ⟨indices, found, covered⟩ := loaded_indices loaded
  have inner : ∀ index ∈ allIndices, ∃ shown : String × Config,
      (do
        let sections ← (sectionDefaults index).mapM (shownSection indices index)
        some (index, dictOf sections)) = some shown ∧
      shown.1 = index ∧ ∀ strategy sect, shown.2.get? strategy = some sect →
        ∃ entry ∈ sectionDefaults index, ∃ config, sect = Dict.node config ∧
          Stored state index entry (strategy, config) := by
    intro index listed
    obtain ⟨sections, all, each⟩ := mapM_total (fun entry known =>
      shownSection_stored loaded listed known found covered)
    refine ⟨(index, dictOf sections), by rw [all]; rfl, rfl, ?_⟩
    intro strategy sect asked
    obtain ⟨config, shown, rfl⟩ := mem_of_dictOf asked
    obtain ⟨entry, known, stored⟩ := each _ shown
    exact ⟨entry, known, config, rfl, stored⟩
  obtain ⟨shown, all, each⟩ := mapM_total inner
  refine ⟨dictOf shown, ?_, ?_⟩
  · simp only [getAllIndices, ensureLoaded_of_loaded loaded, getDict_some found, asDict_node,
      Option.bind_eq_bind, Option.bind_some] at all ⊢
    rw [all]
    rfl
  · intro index sections asked strategy sect inside
    obtain ⟨config, listed, rfl⟩ := mem_of_dictOf asked
    obtain ⟨_, known, rfl, strategies⟩ := each _ listed
    obtain ⟨entry, default, config, rfl, stored⟩ := strategies strategy sect inside
    obtain rfl : strategy = entry.1 := stored.name
    refine ⟨stored.handed, ?_⟩
    intro path present
    apply Node.read_covered stored.covers
    simpa [Node.read, Node.child_node, indexDefaults_get known, sectionDefaults_get default]
      using present

/-- From any file and by any calls that keep the dictionaries of the defaults, the last
patch with a say on a path decides it, loading again changes nothing, and what is shown is
what the strategies are handed. -/
theorem shown_is_effective (file : Option Config) (ops : List Op)
    (shaped : ∀ config ∈ file, defaults.node.KeptBy config.node)
    (kept : ∀ op ∈ ops, defaults.node.KeptBy op.patch.node) : Effective file ops := by
  have start := loaded_start shaped
  have finish : Loaded (after file ops) := loaded_run start kept
  have live := live_run start kept
  refine ⟨?_, ?_, ?_, finish.synced, shows_of_loaded finish⟩
  · intro path untouched
    rw [after, live]
    exact read_untouched_all untouched
  · intro before patch later path split touched untouched
    rw [after, live]
    change ((patches file ops).foldl Dict.merge _).node.read path = _
    rw [split]
    exact read_last touched untouched
  · intro before op rest split
    have reached : Loaded (after file before) :=
      loaded_run start (fun other listed => kept other (by simp [split, listed]))
    obtain ⟨raised, leaf⟩ | ⟨merged, free⟩ := call_cases reached op
    · exact ⟨fun _ => leaf, fun _ => raised⟩
    · constructor
      · intro raised
        rw [merged] at raised
        cases raised
      · rintro ⟨index, strategy, data, value, same, leaf⟩
        exact absurd leaf (free index strategy data value same)

/-- A throttle set, and a section saved twice. -/
theorem saved_is_effective :
    Effective none
      [.update (single "rms" (Dict.ofList [("order_throttle_per_sec", int 9)])),
        .setIndexSection "NIFTY" "iron_condor" (Dict.ofList [("lot_size", int 75)]),
        .setIndexSection "NIFTY" "iron_condor" (Dict.ofList [("stoploss_inr", float 3000)])] :=
  shown_is_effective none _ (fun _ => nofun) (by decide +kernel)

/-- A leaf that no patch has is lost with the dictionary above it. -/
theorem leaf_above_removes :
    let file : Config := single "notes" (Dict.ofList [("owner", str "A")])
    let patch : Config := Dict.ofList [("notes", str "none")]
    defaults.node.KeptBy file.node ∧ defaults.node.KeptBy patch.node ∧
      (loaded (some file)).live.node.read ["notes", "owner"] = .leaf (.str "A") ∧
      patch.node.read ["notes", "owner"] = .absent ∧
      (after (some file) [.update patch]).live.node.read ["notes", "owner"] = .absent := by
  refine ⟨by decide, by decide, rfl, rfl, rfl⟩

end OptionChain.EffectiveConfig
