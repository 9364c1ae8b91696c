import Mathlib.Data.Finset.Union
import Mathlib.Data.List.Basic

/-!
# Merging nested dictionaries

A node is a leaf or a dictionary of nodes. A dictionary is a finite set of keys with a
node for each, so no key stands twice and equality does not see an order. Merging a patch
into a dictionary goes down where both sides have a dictionary and takes the patch's node
everywhere else.

A path reads a leaf, a dictionary or nothing. What a merge leaves under a path is what the
patch has there if it reaches that far, and what was there before if it does not. A tree
that covers another, key by key, absorbs it.
-/

namespace OptionChain.MergedTrees

inductive Node (κ α : Type) where
  | leaf (value : α)
  | dict (keys : Finset κ) (entries : {key // key ∈ keys} → Node κ α)

/-- A node that is a dictionary. -/
structure Dict (κ α : Type) where
  keys : Finset κ
  entries : {key // key ∈ keys} → Node κ α

variable {κ α : Type} [DecidableEq κ]

namespace Dict

/-- The dictionary as a node of a larger one. -/
def node (dict : Dict κ α) : Node κ α := .dict dict.keys dict.entries

def empty : Dict κ α := ⟨∅, fun key => absurd key.2 (Finset.notMem_empty key.1)⟩

def get? (dict : Dict κ α) (key : κ) : Option (Node κ α) :=
  if found : key ∈ dict.keys then some (dict.entries ⟨key, found⟩) else none

def set (dict : Dict κ α) (key : κ) (node : Node κ α) : Dict κ α :=
  ⟨insert key dict.keys, fun other =>
    if same : other.1 = key then node
    else dict.entries ⟨other.1, Finset.mem_of_mem_insert_of_ne other.2 same⟩⟩

def update (dict : Dict κ α) (entries : List (κ × Node κ α)) : Dict κ α :=
  entries.foldl (fun dict entry => dict.set entry.1 entry.2) dict

/-- A literal. The later of two entries with one key counts. -/
def ofList (entries : List (κ × Node κ α)) : Dict κ α := empty.update entries

@[simp] theorem get?_empty (key : κ) : (empty : Dict κ α).get? key = none := by
  simp [get?, empty]

theorem get?_set (dict : Dict κ α) (key other : κ) (node : Node κ α) :
    (dict.set key node).get? other = if other = key then some node else dict.get? other := by
  unfold get? set
  by_cases same : other = key
  · simp [same]
  · simp [same]

theorem get?_isSome (dict : Dict κ α) (key : κ) :
    (dict.get? key).isSome = true ↔ key ∈ dict.keys := by
  unfold get?
  split <;> simp_all

/-- Dictionaries that answer alike are equal. -/
theorem ext_get {first second : Dict κ α} (alike : ∀ key, first.get? key = second.get? key) :
    first = second := by
  obtain ⟨keys, entries⟩ := first
  obtain ⟨otherKeys, others⟩ := second
  have sameKeys : keys = otherKeys := by
    ext key
    rw [← get?_isSome ⟨keys, entries⟩ key, alike key, get?_isSome]
  subst sameKeys
  congr 1
  funext key
  have here := alike key.1
  simpa [get?, key.2] using here

/-- What a literal answers is one of its entries. -/
theorem mem_of_get?_update {dict : Dict κ α} {entries : List (κ × Node κ α)} {key : κ}
    {node : Node κ α} (found : (dict.update entries).get? key = some node) :
    (key, node) ∈ entries ∨ dict.get? key = some node := by
  induction entries generalizing dict with
  | nil => exact Or.inr found
  | cons entry rest inductionHypothesis =>
    rcases inductionHypothesis found with later | earlier
    · exact Or.inl (List.mem_cons_of_mem entry later)
    · rw [get?_set] at earlier
      split at earlier
      · next same =>
        obtain rfl : entry.2 = node := Option.some.inj earlier
        exact Or.inl (by rw [same]; exact List.mem_cons_self)
      · exact Or.inr earlier

theorem mem_of_get?_ofList {entries : List (κ × Node κ α)} {key : κ} {node : Node κ α}
    (found : (ofList entries).get? key = some node) : (key, node) ∈ entries := by
  rcases mem_of_get?_update found with listed | none
  · exact listed
  · simp at none

theorem get?_update_of_notMem {dict : Dict κ α} {entries : List (κ × Node κ α)} {key : κ}
    (fresh : key ∉ entries.map Prod.fst) : (dict.update entries).get? key = dict.get? key := by
  induction entries generalizing dict with
  | nil => rfl
  | cons entry rest inductionHypothesis =>
    rw [List.map_cons, List.mem_cons, not_or] at fresh
    calc ((dict.set entry.1 entry.2).update rest).get? key
        = (dict.set entry.1 entry.2).get? key := inductionHypothesis fresh.2
      _ = dict.get? key := by rw [get?_set, if_neg fresh.1]

/-- A literal without doubled keys answers each of its entries. -/
theorem get?_update_of_mem {dict : Dict κ α} {entries : List (κ × Node κ α)} {key : κ}
    {node : Node κ α} (distinct : (entries.map Prod.fst).Nodup) (listed : (key, node) ∈ entries) :
    (dict.update entries).get? key = some node := by
  induction entries generalizing dict with
  | nil => cases listed
  | cons entry rest inductionHypothesis =>
    obtain ⟨fresh, later⟩ := List.nodup_cons.mp distinct
    rcases List.mem_cons.mp listed with rfl | there
    · calc ((dict.set key node).update rest).get? key
          = (dict.set key node).get? key := get?_update_of_notMem fresh
        _ = some node := by rw [get?_set, if_pos rfl]
    · exact inductionHypothesis later there

end Dict

namespace Node

/-- A patch's node put where a node stood before. -/
def merge : Node κ α → Node κ α → Node κ α
  | .dict keys entries, .dict patched patch =>
    .dict (keys ∪ patched) (fun key =>
      if new : key.1 ∈ patched then
        if old : key.1 ∈ keys then merge (entries ⟨key.1, old⟩) (patch ⟨key.1, new⟩)
        else patch ⟨key.1, new⟩
      else entries ⟨key.1, (Finset.mem_union.mp key.2).resolve_right new⟩)
  | .dict _ _, .leaf value => .leaf value
  | .leaf _, patch => patch

end Node

/-- The merge of two dictionaries. -/
def Dict.merge (base patch : Dict κ α) : Dict κ α :=
  ⟨base.keys ∪ patch.keys, fun key =>
    if new : key.1 ∈ patch.keys then
      if old : key.1 ∈ base.keys then
        (base.entries ⟨key.1, old⟩).merge (patch.entries ⟨key.1, new⟩)
      else patch.entries ⟨key.1, new⟩
    else base.entries ⟨key.1, (Finset.mem_union.mp key.2).resolve_right new⟩⟩

theorem merge_node (base patch : Dict κ α) :
    base.node.merge patch.node = (base.merge patch).node := rfl

omit [DecidableEq κ] in
theorem node_injective {first second : Dict κ α} (same : first.node = second.node) :
    first = second := by
  cases first
  cases second
  simpa [Dict.node] using same

theorem Dict.get?_merge (base patch : Dict κ α) (key : κ) :
    (base.merge patch).get? key = match base.get? key, patch.get? key with
      | some before, some after => some (before.merge after)
      | before, none => before
      | none, some after => some after := by
  unfold get? merge
  by_cases new : key ∈ patch.keys <;> by_cases old : key ∈ base.keys <;> simp [new, old]

@[simp] theorem Dict.empty_merge (patch : Dict κ α) : empty.merge patch = patch := by
  apply ext_get
  intro key
  rw [get?_merge, get?_empty]
  cases patch.get? key <;> rfl

/-- A patch of one entry sets that entry to the merge of its node. -/
theorem Dict.merge_single (base : Dict κ α) (key : κ) (node : Node κ α) :
    base.merge (empty.set key node) =
      base.set key ((base.get? key).elim node (fun before => before.merge node)) := by
  apply ext_get
  intro other
  rw [get?_merge, get?_set, get?_set, get?_empty]
  by_cases same : other = key
  · subst same
    cases base.get? other <;> simp
  · cases base.get? other <;> simp [same]

/-! ## Paths -/

/-- What stands at a path. -/
inductive Reading (α : Type) where
  | absent
  | dict
  | leaf (value : α)
deriving DecidableEq

namespace Node

/-- What stands under a key. A leaf has nothing there. -/
def child : Node κ α → κ → Option (Node κ α)
  | .leaf _, _ => none
  | .dict keys entries, key => (Dict.mk keys entries).get? key

def kind : Node κ α → Reading α
  | .leaf value => .leaf value
  | .dict _ _ => .dict

def read : Node κ α → List κ → Reading α
  | node, [] => node.kind
  | node, key :: path => match node.child key with
    | none => .absent
    | some inner => inner.read path

/-- A patch has its say on a path when the path ends in it, or runs into one of its
leaves. -/
def touches : Node κ α → List κ → Bool
  | _, [] => true
  | .leaf _, _ :: _ => true
  | .dict keys entries, key :: path => match (dict keys entries).child key with
    | none => false
    | some inner => inner.touches path

theorem child_node (dict : Dict κ α) (key : κ) : dict.node.child key = dict.get? key := rfl

theorem child_merge {keys patched : Finset κ} (entries : {key // key ∈ keys} → Node κ α)
    (patch : {key // key ∈ patched} → Node κ α) (key : κ) :
    ((dict keys entries).merge (dict patched patch)).child key =
      match (dict keys entries).child key, (dict patched patch).child key with
        | some before, some after => some (before.merge after)
        | before, none => before
        | none, some after => some after :=
  Dict.get?_merge ⟨keys, entries⟩ ⟨patched, patch⟩ key

/-- What a patch does not touch it does not have. -/
theorem read_untouched {patch : Node κ α} {path : List κ} (untouched : patch.touches path = false) :
    patch.read path = .absent := by
  induction path generalizing patch with
  | nil => cases patch <;> cases untouched
  | cons key path inductionHypothesis =>
    cases patch with
    | leaf value => cases untouched
    | dict keys entries =>
      rw [touches] at untouched
      rw [read]
      cases found : (dict keys entries).child key with
      | none => rfl
      | some inner =>
        rw [found] at untouched
        exact inductionHypothesis untouched

/-- Merging leaves at a path what the patch has there if it touches the path, and what
stood there if it does not. -/
theorem read_merge (base patch : Node κ α) (path : List κ) :
    (base.merge patch).read path =
      if patch.touches path then patch.read path else base.read path := by
  induction path generalizing base patch with
  | nil => cases base <;> cases patch <;> rfl
  | cons key path inductionHypothesis =>
    cases base with
    | leaf value =>
      rw [merge]
      split
      · rfl
      · next untouched => exact read_untouched (by simpa using untouched)
    | dict keys entries =>
      cases patch with
      | leaf value => rfl
      | dict patched patch =>
        rw [read, child_merge, read, read, touches]
        cases before : (dict keys entries).child key with
        | none =>
          cases after : (dict patched patch).child key with
          | none => simp
          | some new =>
            by_cases touched : new.touches path = true
            · simp [touched]
            · simpa [touched] using read_untouched (by simpa using touched)
        | some inner =>
          cases after : (dict patched patch).child key with
          | none => simp
          | some new => exact inductionHypothesis inner new

/-! ## Shapes -/

/-- The other tree has every key of this one, and a dictionary wherever it has one. -/
def CoveredBy : Node κ α → Node κ α → Prop
  | .leaf _, _ => True
  | .dict _ _, .leaf _ => False
  | .dict keys entries, .dict others nodes => ∀ key, ∀ found : key ∈ keys,
      ∃ there : key ∈ others, (entries ⟨key, found⟩).CoveredBy (nodes ⟨key, there⟩)

/-- The other tree has nothing but dictionaries in the place of this one's. -/
def KeptBy : Node κ α → Node κ α → Prop
  | .leaf _, _ => True
  | .dict _ _, .leaf _ => False
  | .dict keys entries, .dict others nodes => ∀ key, ∀ found : key ∈ keys,
      ∀ there : key ∈ others, (entries ⟨key, found⟩).KeptBy (nodes ⟨key, there⟩)

instance keptByDecidable : ∀ node other : Node κ α, Decidable (node.KeptBy other)
  | .leaf _, _ => .isTrue trivial
  | .dict _ _, .leaf _ => .isFalse id
  | .dict keys entries, .dict others nodes =>
    have := fun key found there => keptByDecidable (entries ⟨key, found⟩) (nodes ⟨key, there⟩)
    inferInstanceAs (Decidable (∀ key, ∀ found : key ∈ keys, ∀ there : key ∈ others,
      (entries ⟨key, found⟩).KeptBy (nodes ⟨key, there⟩)))

omit [DecidableEq κ] in
theorem coveredBy_refl (node : Node κ α) : node.CoveredBy node := by
  induction node with
  | leaf value => trivial
  | dict keys entries inductionHypothesis =>
    exact fun key found => ⟨found, inductionHypothesis ⟨key, found⟩⟩

/-- A patch that keeps the dictionaries of a shape leaves a tree that covers it. -/
theorem coveredBy_merge {shape base patch : Node κ α} (covered : shape.CoveredBy base)
    (kept : shape.KeptBy patch) : shape.CoveredBy (base.merge patch) := by
  induction shape generalizing base patch with
  | leaf value => trivial
  | dict keys entries inductionHypothesis =>
    cases base with
    | leaf value => exact covered.elim
    | dict stored nodes =>
      cases patch with
      | leaf value => exact kept.elim
      | dict patched news =>
        intro key found
        obtain ⟨old, below⟩ := covered key found
        refine ⟨Finset.mem_union_left patched old, ?_⟩
        by_cases new : key ∈ patched
        · simp only [new, old, dif_pos]
          exact inductionHypothesis ⟨key, found⟩ below (kept key found new)
        · simpa only [new, dif_neg, not_false_eq_true] using below

/-- What covers a tree has all its children, covered in turn. -/
theorem child_covered {base node inner : Node κ α} {key : κ} (covered : base.CoveredBy node)
    (found : base.child key = some inner) :
    ∃ other, node.child key = some other ∧ inner.CoveredBy other := by
  cases base with
  | leaf value => cases found
  | dict keys entries =>
    cases node with
    | leaf value => exact covered.elim
    | dict others nodes =>
      obtain ⟨known, same⟩ := Option.dite_none_right_eq_some.mp found
      obtain ⟨there, below⟩ := covered key known
      obtain rfl : entries ⟨key, known⟩ = inner := Option.some.inj same
      exact ⟨nodes ⟨key, there⟩, dif_pos there, below⟩

/-- Nothing of a tree is absent from one that covers it. -/
theorem read_covered {base node : Node κ α} {path : List κ} (covered : base.CoveredBy node)
    (present : base.read path ≠ .absent) : node.read path ≠ .absent := by
  induction path generalizing base node with
  | nil => cases node <;> simp [read, kind]
  | cons key path inductionHypothesis =>
    rw [read] at present ⊢
    cases found : base.child key with
    | none => exact absurd (by rw [found]) present
    | some inner =>
      obtain ⟨other, there, below⟩ := child_covered covered found
      rw [found] at present
      rw [there]
      exact inductionHypothesis below present

/-- A tree that covers a base absorbs it. -/
theorem merge_of_coveredBy {base node : Node κ α} (covered : base.CoveredBy node) :
    base.merge node = node := by
  induction base generalizing node with
  | leaf value => rfl
  | dict keys entries inductionHypothesis =>
    cases node with
    | leaf value => rfl
    | dict others nodes =>
      have whole : Dict.merge ⟨keys, entries⟩ ⟨others, nodes⟩ = ⟨others, nodes⟩ := by
        apply Dict.ext_get
        intro key
        rw [Dict.get?_merge]
        unfold Dict.get?
        by_cases known : key ∈ keys
        · obtain ⟨there, below⟩ := covered key known
          simp [known, there, inductionHypothesis ⟨key, known⟩ below]
        · by_cases there : key ∈ others <;> simp [known, there]
      exact congrArg Dict.node whole

end Node

theorem Dict.merge_of_coveredBy {base dict : Dict κ α} (covered : base.node.CoveredBy dict.node) :
    base.merge dict = dict :=
  node_injective (Node.merge_of_coveredBy covered)

end OptionChain.MergedTrees
