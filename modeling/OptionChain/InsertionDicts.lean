import Mathlib.Data.List.Induction
import Mathlib.Data.List.Nodup

/-!
# Dictionaries in insertion order

A dictionary is the list of its entries, in the order in which their keys came in. A key
stands once, and assigning to it again changes its value in place.

A dictionary built by assignments holds what was assigned last. Where the assignments to a
key agree, it holds exactly what was assigned.
-/

namespace OptionChain.InsertionDicts

universe u v
variable {κ : Type u} {ν : Type v}

/-- Entries with different keys. -/
structure Dict (κ : Type u) (ν : Type v) where
  items : List (κ × ν)
  distinct : (items.map Prod.fst).Nodup

variable [DecidableEq κ]

/-- The entries after `d[key] = value`. -/
def setItem (key : κ) (value : ν) : List (κ × ν) → List (κ × ν)
  | [] => [(key, value)]
  | item :: rest => if item.1 = key then (key, value) :: rest else item :: setItem key value rest

theorem keys_setItem {key other : κ} {value : ν} {items : List (κ × ν)} :
    other ∈ (setItem key value items).map Prod.fst ↔ other = key ∨ other ∈ items.map Prod.fst := by
  induction items with
  | nil => simp [setItem]
  | cons item rest inductionHypothesis =>
    rw [setItem]
    split
    case isTrue same =>
      subst same
      simp
    case isFalse =>
      rw [List.map_cons, List.mem_cons, inductionHypothesis, List.map_cons, List.mem_cons,
        or_left_comm]

theorem nodup_setItem {key : κ} {value : ν} {items : List (κ × ν)}
    (distinct : (items.map Prod.fst).Nodup) : ((setItem key value items).map Prod.fst).Nodup := by
  induction items with
  | nil => simp [setItem]
  | cons item rest inductionHypothesis =>
    rw [List.map_cons, List.nodup_cons] at distinct
    rw [setItem]
    split
    case isTrue same =>
      rw [List.map_cons, List.nodup_cons, ← same]
      exact distinct
    case isFalse different =>
      rw [List.map_cons, List.nodup_cons, keys_setItem]
      exact ⟨fun met => met.elim different distinct.1, inductionHypothesis distinct.2⟩

theorem mem_setItem {key : κ} {value : ν} {items : List (κ × ν)}
    (distinct : (items.map Prod.fst).Nodup) {entry : κ × ν} :
    entry ∈ setItem key value items ↔ entry = (key, value) ∨ entry.1 ≠ key ∧ entry ∈ items := by
  induction items with
  | nil => simp [setItem]
  | cons item rest inductionHypothesis =>
    rw [List.map_cons, List.nodup_cons] at distinct
    have apart (member : entry ∈ rest) : entry.1 ≠ item.1 := fun same =>
      distinct.1 (same ▸ List.mem_map_of_mem member)
    rw [setItem]
    split
    case isTrue same =>
      subst same
      rw [List.mem_cons, List.mem_cons]
      apply or_congr_right
      constructor
      · exact fun member => ⟨apart member, .inr member⟩
      · rintro ⟨different, rfl | member⟩
        · exact absurd rfl different
        · exact member
    case isFalse different =>
      rw [List.mem_cons, inductionHypothesis distinct.2, List.mem_cons]
      constructor
      · rintro (rfl | rfl | ⟨other, member⟩)
        · exact .inr ⟨different, .inl rfl⟩
        · exact .inl rfl
        · exact .inr ⟨other, .inr member⟩
      · rintro (rfl | ⟨other, rfl | member⟩)
        · exact .inr (.inl rfl)
        · exact .inl rfl
        · exact .inr (.inr ⟨other, member⟩)

namespace Dict

def empty : Dict κ ν := ⟨[], List.nodup_nil⟩

/-- `d[key] = value`. -/
def set (dict : Dict κ ν) (key : κ) (value : ν) : Dict κ ν :=
  ⟨setItem key value dict.items, nodup_setItem dict.distinct⟩

/-- `d.get(key)`. -/
def get? (dict : Dict κ ν) (key : κ) : Option ν :=
  (dict.items.find? fun item => decide (item.1 = key)).map Prod.snd

theorem get?_eq_some {dict : Dict κ ν} {key : κ} {value : ν} :
    dict.get? key = some value ↔ (key, value) ∈ dict.items := by
  rw [get?, Option.map_eq_some_iff]
  constructor
  · rintro ⟨item, found, rfl⟩
    have same : item.1 = key := by simpa using List.find?_some found
    subst same
    exact List.mem_of_find?_eq_some found
  · intro member
    have some : (dict.items.find? fun item => decide (item.1 = key)).isSome = true :=
      List.find?_isSome.mpr ⟨_, member, decide_eq_true rfl⟩
    obtain ⟨item, found⟩ := Option.isSome_iff_exists.mp some
    have same : item.1 = key := by simpa using List.find?_some found
    have one : item = (key, value) :=
      List.inj_on_of_nodup_map dict.distinct (List.mem_of_find?_eq_some found) member same
    exact ⟨item, found, by rw [one]⟩

theorem mem_set {dict : Dict κ ν} {key : κ} {value : ν} {entry : κ × ν} :
    entry ∈ (dict.set key value).items ↔
      entry = (key, value) ∨ entry.1 ≠ key ∧ entry ∈ dict.items :=
  mem_setItem dict.distinct

/-- The dictionary that assignments leave, one after the other. -/
def ofList (entries : List (κ × ν)) : Dict κ ν :=
  entries.foldl (fun dict entry => dict.set entry.1 entry.2) empty

theorem ofList_snoc (entries : List (κ × ν)) (entry : κ × ν) :
    ofList (entries ++ [entry]) = (ofList entries).set entry.1 entry.2 := by
  rw [ofList, List.foldl_append]
  rfl

/-- Nothing is held that was not assigned. -/
theorem assigned_of_mem {entries : List (κ × ν)} {entry : κ × ν}
    (held : entry ∈ (ofList entries).items) : entry ∈ entries := by
  induction entries using List.reverseRecOn with
  | nil => exact held
  | append_singleton entries last inductionHypothesis =>
    rw [ofList_snoc, mem_set] at held
    rw [List.mem_append, List.mem_singleton]
    rcases held with new | ⟨_, old⟩
    · exact .inr new
    · exact .inl (inductionHypothesis old)

/-- What is assigned to a key to which nothing else is assigned is held. -/
theorem mem_ofList {entries : List (κ × ν)} {key : κ} {value : ν}
    (agree : ∀ other, (key, other) ∈ entries → other = value) (assigned : (key, value) ∈ entries) :
    (key, value) ∈ (ofList entries).items := by
  induction entries using List.reverseRecOn with
  | nil => exact assigned
  | append_singleton entries last inductionHypothesis =>
    rw [ofList_snoc, mem_set]
    by_cases same : last.1 = key
    · subst same
      have held := agree last.2 (List.mem_append_right entries (List.mem_singleton_self last))
      exact .inl (by rw [← held])
    · rw [List.mem_append, List.mem_singleton] at assigned
      rcases assigned with earlier | rfl
      · exact .inr ⟨Ne.symm same, inductionHypothesis
          (fun other member => agree other (List.mem_append_left [last] member)) earlier⟩
      · exact absurd rfl same

end Dict

end OptionChain.InsertionDicts
