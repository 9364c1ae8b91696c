import Mathlib.Data.List.DropRight
import Mathlib.Data.List.Nodup
import OptionChain.PastTime
import OptionChain.Runs

/-!
# Keyed tables

A table is a list of rows of which no two have the same key, in the order of their insertion.
A statement is about the row of one key: it changes that row or appends one where there is
none, it changes it where there is one, or it deletes it.

`find_run` says that a table is a map. What it holds of a key is decided by the statements
about that key.

`kept_run` is about columns that an upsert overwrites only with values that are not blank.
Such a column holds the last value that was given since the row was last deleted.
-/

namespace OptionChain.KeyedTables

open PastTime Runs

section Tables

variable {κ ρ : Type} [DecidableEq κ] (key : ρ → κ)

/-- A change of a row that leaves its key. -/
structure Change where
  apply : ρ → ρ
  keeps : ∀ row, key (apply row) = key row

inductive Statement where
  | upsert (row : ρ) (change : Change key)
  | update (target : κ) (change : Change key)
  | delete (target : κ)

/-- `UPDATE … WHERE` the key is the target. -/
def alter (target : κ) (change : Change key) (table : List ρ) : List ρ :=
  table.map fun row => if key row = target then change.apply row else row

def step (table : List ρ) : Statement key → List ρ
  | .upsert row change =>
      if table.any fun old => key old = key row then alter key (key row) change table
      else table ++ [row]
  | .update target change => alter key target change table
  | .delete target => table.filter fun row => key row ≠ target

/-- The row of a key. -/
def find (target : κ) (table : List ρ) : Option ρ := table.find? fun row => key row = target

/-- What a statement makes of the row of a key. -/
def effect (target : κ) (held : Option ρ) : Statement key → Option ρ
  | .upsert row change =>
      if key row = target then some ((held.map change.apply).getD row) else held
  | .update other change => if other = target then held.map change.apply else held
  | .delete other => if other = target then none else held

variable {key} {table : List ρ} {target : κ}

theorem find_eq_none : find key target table = none ↔ ∀ row ∈ table, key row ≠ target := by
  simp [find, List.find?_eq_none]

theorem keys_alter (other : κ) (change : Change key) (table : List ρ) :
    (alter key other change table).map key = table.map key := by
  rw [alter, List.map_map]
  refine List.map_congr_left fun row _ => ?_
  rw [Function.comp_apply]
  split
  · exact change.keeps row
  · rfl

theorem find_alter (other : κ) (change : Change key) (table : List ρ) :
    find key target (alter key other change table) =
      if other = target then (find key target table).map change.apply
      else find key target table := by
  induction table with
  | nil => simp [alter, find]
  | cons row rest inductionHypothesis =>
    simp only [alter, find] at inductionHypothesis ⊢
    rw [List.map_cons, List.find?_cons, List.find?_cons]
    have same : key (if key row = other then change.apply row else row) = key row := by
      split
      · exact change.keeps row
      · rfl
    rw [same]
    by_cases here : key row = target
    · simp only [here, decide_true]
      by_cases hit : other = target
      · rw [if_pos hit.symm, if_pos hit, Option.map_some]
      · rw [if_neg fun back => hit back.symm, if_neg hit]
    · simp only [here, decide_false]
      exact inductionHypothesis

theorem find_append (row : ρ) (table : List ρ) (absent : find key (key row) table = none) :
    find key target (table ++ [row]) =
      if key row = target then some row else find key target table := by
  rw [find, List.find?_append, ← find, List.find?_singleton]
  by_cases here : key row = target
  · subst here
    simp [absent]
  · simp [here]

theorem find_delete (other : κ) (table : List ρ) :
    find key target (table.filter fun row => key row ≠ other) =
      if other = target then none else find key target table := by
  rw [find, List.find?_filter]
  by_cases same : other = target
  · subst same
    simp
  · rw [if_neg same, find]
    congr 1
    funext row
    by_cases here : key row = target
    · subst here
      simp [Ne.symm same]
    · simp [here]

theorem find_step (statement : Statement key) (table : List ρ) :
    find key target (step key table statement) =
      effect key target (find key target table) statement := by
  cases statement with
  | upsert row change =>
    rw [step, effect]
    split
    case isTrue held =>
      obtain ⟨old, member, same⟩ := List.any_eq_true.mp held
      rw [find_alter]
      split
      case isTrue here =>
        have found : find key target table ≠ none := fun absent =>
          find_eq_none.mp absent old member ((of_decide_eq_true same).trans here)
        obtain ⟨first, first_found⟩ := Option.ne_none_iff_exists'.mp found
        rw [first_found]
        rfl
      case isFalse => rfl
    case isFalse fresh =>
      have absent : find key (key row) table = none := find_eq_none.mpr fun old member same =>
        fresh (List.any_eq_true.mpr ⟨old, member, decide_eq_true same⟩)
      rw [find_append row table absent]
      split
      case isTrue here =>
        rw [← here, absent]
        rfl
      case isFalse => rfl
  | update other change => exact find_alter other change table
  | delete other => exact find_delete other table

/-- A table is a map. -/
theorem find_run (statements : List (Statement key)) (table : List ρ) :
    find key target (run (step key) table statements) =
      run (effect key target) (find key target table) statements :=
  run_part (step key) (find key target) (fun state statement => find_step statement state) table
    statements

theorem nodup_step (distinct : (table.map key).Nodup) (statement : Statement key) :
    ((step key table statement).map key).Nodup := by
  cases statement with
  | upsert row change =>
    rw [step]
    split
    case isTrue => rwa [keys_alter]
    case isFalse fresh =>
      rw [List.map_append, List.map_singleton, List.nodup_append]
      refine ⟨distinct, List.nodup_singleton _, ?_⟩
      rintro old listed new ⟨⟩
      · obtain ⟨holder, member, rfl⟩ := List.mem_map.mp listed
        exact fun same => fresh (List.any_eq_true.mpr ⟨holder, member, decide_eq_true same⟩)
      · rename_i found
        cases found
  | update other change => rwa [step, keys_alter]
  | delete other =>
    rw [step]
    exact (List.Sublist.map key List.filter_sublist).nodup distinct

theorem nodup_run (distinct : (table.map key).Nodup) (statements : List (Statement key)) :
    ((run (step key) table statements).map key).Nodup := by
  induction statements generalizing table with
  | nil => exact distinct
  | cons statement rest inductionHypothesis =>
    exact inductionHypothesis (nodup_step distinct statement)

/-- The rows of a table are those that it finds. -/
theorem mem_iff_find (distinct : (table.map key).Nodup) {row : ρ} :
    row ∈ table ↔ find key (key row) table = some row := by
  constructor
  · intro member
    induction table with
    | nil => cases member
    | cons first rest inductionHypothesis =>
      rw [List.map_cons, List.nodup_cons] at distinct
      rcases List.mem_cons.mp member with rfl | later
      · simp [find]
      · have apart : key first ≠ key row := fun same =>
          distinct.1 (same ▸ List.mem_map_of_mem later)
        rw [find, List.find?_cons_of_neg (by simpa using apart)]
        exact inductionHypothesis distinct.2 later
  · exact fun found => List.mem_of_find?_eq_some found

/-- The rows of a key are the one that it finds. -/
theorem filter_key (distinct : (table.map key).Nodup) :
    (table.filter fun row => key row = target) = (find key target table).toList := by
  induction table with
  | nil => rfl
  | cons row rest inductionHypothesis =>
    rw [List.map_cons, List.nodup_cons] at distinct
    by_cases here : key row = target
    · have alone : (rest.filter fun row => key row = target) = [] :=
        List.filter_eq_nil_iff.mpr fun other member same =>
          distinct.1 (here.trans (of_decide_eq_true same).symm ▸ List.mem_map_of_mem member)
      rw [List.filter_cons_of_pos (by simpa using here), alone, find,
        List.find?_cons_of_pos (by simpa using here)]
      rfl
    · rw [List.filter_cons_of_neg (by simpa using here), inductionHypothesis distinct.2, find, find,
        List.find?_cons_of_neg (by simpa using here)]

theorem key_of_find {row : ρ} (found : find key target table = some row) : key row = target := by
  have holds := List.find?_some found
  exact of_decide_eq_true holds

end Tables

/-! ## Columns that blank values leave alone -/

section Kept

variable {ι β : Type}

/-- A statement as one row sees it. -/
inductive Touch (ι β : Type) where
  | give (values : ι → β)
  | drop
  | pass

def Touch.gives : Touch ι β → Bool
  | .give _ => true
  | _ => false

def Touch.drops : Touch ι β → Bool
  | .drop => true
  | _ => false

/-- The touches since the row was last deleted. -/
def sinceDrop (touches : List (Touch ι β)) : List (Touch ι β) :=
  touches.rtakeWhile fun touch => !touch.drops

theorem sinceDrop_drop (touches : List (Touch ι β)) : sinceDrop (touches ++ [.drop]) = [] :=
  List.rtakeWhile_concat_neg _ _ _ (by simp [Touch.drops])

theorem sinceDrop_kept (touches : List (Touch ι β)) {touch : Touch ι β}
    (stays : touch.drops = false) :
    sinceDrop (touches ++ [touch]) = sinceDrop touches ++ [touch] :=
  List.rtakeWhile_concat_pos _ _ _ (by simp [stays])

variable [DecidableEq β] (blank : β)

/-- What the columns of the row hold after it. -/
def kept (held : Option (ι → β)) : Touch ι β → Option (ι → β)
  | .give values => some fun column =>
      if values column ≠ blank then values column
      else (held.map fun columns => columns column).getD blank
  | .drop => none
  | .pass => held

/-- The value that a touch gives to a column, unless it is blank. -/
def Touch.value (column : ι) : Touch ι β → Option β
  | .give values => if values column ≠ blank then some (values column) else none
  | _ => none

/-- A row is there if it was given since, and each column holds what it was last given. -/
def remembered (touches : List (Touch ι β)) : Option (ι → β) :=
  if (sinceDrop touches).any Touch.gives then
    some fun column => (latest (Touch.value blank column) (sinceDrop touches)).getD blank
  else none

/-- What no touch has given since the row was deleted is blank. -/
theorem latest_ungiven {touches : List (Touch ι β)} (none_gives : touches.any Touch.gives = false)
    (column : ι) : latest (Touch.value blank column) touches = none := by
  induction touches using List.reverseRecOn with
  | nil => rfl
  | append_singleton touches touch inductionHypothesis =>
    rw [List.any_append, Bool.or_eq_false_iff] at none_gives
    rw [latest_concat, inductionHypothesis none_gives.1, Option.or_none]
    cases touch with
    | give values => simp [Touch.gives] at none_gives
    | drop => rfl
    | pass => rfl

theorem kept_run (touches : List (Touch ι β)) :
    run (kept blank) none touches = remembered blank touches := by
  induction touches using List.reverseRecOn with
  | nil => rfl
  | append_singleton touches touch inductionHypothesis =>
    rw [run_append, run_cons, run_nil, inductionHypothesis]
    cases touch with
    | drop =>
      rw [kept, remembered, sinceDrop_drop]
      rfl
    | pass =>
      rw [kept, remembered, remembered, sinceDrop_kept touches rfl]
      have same : ∀ column, latest (Touch.value blank column) (sinceDrop touches ++ [.pass]) =
          latest (Touch.value blank column) (sinceDrop touches) := fun column => by
        rw [latest_concat]
        rfl
      simp only [List.any_append, same]
      simp [Touch.gives]
    | give values =>
      have given : (sinceDrop touches ++ [Touch.give values]).any Touch.gives = true := by
        rw [List.any_append, List.any_cons]
        exact Bool.or_true _
      rw [kept, remembered, remembered, sinceDrop_kept touches rfl, if_pos given]
      refine congrArg some (funext fun column => ?_)
      rw [latest_concat, Touch.value]
      by_cases filled : values column ≠ blank
      · rw [if_pos filled, if_pos filled]
        rfl
      · rw [if_neg filled, if_neg filled, Option.none_or]
        cases given : (sinceDrop touches).any Touch.gives with
        | true => rfl
        | false =>
          rw [latest_ungiven blank given]
          rfl

end Kept

end OptionChain.KeyedTables
