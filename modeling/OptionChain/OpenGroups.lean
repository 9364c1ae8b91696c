import Mathlib.Data.List.Induction
import Mathlib.Data.List.Pairwise
import Mathlib.Data.List.SplitBy

/-!
# The open group of a list

A list is cut into groups of consecutive items with equal keys. The last group stays open:
further items with its key join it and leave the other groups as they are.
-/

namespace OptionChain.OpenGroups

variable {α β : Type}

/-- Groups of mapped items are the mapped groups. -/
theorem splitBy_map (f : β → α) (same : α → α → Bool) (items : List β) :
    (items.map f).splitBy same =
      (items.splitBy (fun one other => same (f one) (f other))).map (List.map f) := by
  rw [List.splitBy_eq_iff]
  refine ⟨?_, ?_, ?_, ?_⟩
  · rw [← List.map_flatten, List.flatten_splitBy]
  · simp
  · intro group member
    obtain ⟨original, cut, rfl⟩ := List.mem_map.mp member
    exact (List.isChain_map f).mpr (List.isChain_of_mem_splitBy cut)
  · apply (List.isChain_map (List.map f)).mpr
    apply (List.isChain_getLast_head_splitBy _ items).imp
    rintro one other ⟨left, right, differ⟩
    refine ⟨by simpa using left, by simpa using right, ?_⟩
    simpa using differ

variable [DecidableEq β] (key : α → β)

/-- The groups of consecutive items with equal keys. -/
def groups (items : List α) : List (List α) :=
  items.splitBy (fun one other => decide (key one = key other))

/-- The items at the end of a list that have a key. -/
theorem exists_open (current : β) (items : List α) :
    ∃ early last, items = early ++ last ∧ (∀ item ∈ last, key item = current) ∧
      ∀ item ∈ early.getLast?, key item ≠ current := by
  induction items using List.reverseRecOn with
  | nil => exact ⟨[], [], rfl, by simp, by simp⟩
  | append_singleton items item inductionHypothesis =>
    by_cases own : key item = current
    · obtain ⟨early, last, rfl, all, before⟩ := inductionHypothesis
      refine ⟨early, last ++ [item], by simp, ?_, before⟩
      simpa [or_imp, forall_and, own] using all
    · exact ⟨items ++ [item], [], by simp, by simp, by simpa using own⟩

variable {key} {items further : List α} {final : α}

/-- Items that have one key are one group, behind items that end with another one. -/
theorem groups_append {early : List α} {current : β} (nonempty : items ≠ [])
    (all : ∀ item ∈ items, key item = current)
    (before : ∀ item ∈ early.getLast?, key item ≠ current) :
    groups key (early ++ items) = groups key early ++ [items] := by
  have cut : ∀ one ∈ early.getLast?, ∀ other ∈ items.head?,
      decide (key one = key other) = false := by
    intro one ends other begins
    rw [all other (List.mem_of_mem_head? begins)]
    exact decide_eq_false (before one ends)
  have chain : items.IsChain (fun one other => decide (key one = key other) = true) := by
    apply List.Pairwise.isChain
    apply List.pairwise_of_forall_mem_list
    intro one first other second
    rw [all one first, all other second]
    exact decide_eq_true rfl
  unfold groups
  rw [List.splitBy_append cut, List.splitBy_of_isChain nonempty chain]

/-- Further items with the key of the last one join its group. -/
theorem groups_further (ends : items.getLast? = some final)
    (same : ∀ item ∈ further, key item = key final) :
    ∃ closed last, last ≠ [] ∧ groups key items = closed ++ [last] ∧
      groups key (items ++ further) = closed ++ [last ++ further] := by
  obtain ⟨early, last, rfl, all, before⟩ := exists_open key (key final) items
  have nonempty : last ≠ [] := by
    rintro rfl
    rw [List.append_nil] at ends
    exact before final ends rfl
  refine ⟨groups key early, last, nonempty, groups_append nonempty all before, ?_⟩
  rw [List.append_assoc]
  apply groups_append _ _ before
  · exact List.append_ne_nil_of_left_ne_nil nonempty further
  · intro item member
    rcases List.mem_append.mp member with old | new
    · exact all item old
    · exact same item new

end OptionChain.OpenGroups
