import Mathlib.Order.Bounds.Basic

/-!
# Sorting by a key

`sortedBy key xs` is Python's `sorted(xs, key=key)`: the same elements, stable, with keys
that never fall. Its last element has a greatest key.
-/

namespace OptionChain.SortedLists

universe u v
variable {α : Type u} {κ : Type v} [LinearOrder κ] (key : α → κ)

/-- `sorted(xs, key=key)`. -/
def sortedBy (xs : List α) : List α := xs.mergeSort (fun a b => decide (key a ≤ key b))

@[simp] theorem mem_sortedBy {xs : List α} {a : α} : a ∈ sortedBy key xs ↔ a ∈ xs :=
  List.mem_mergeSort

theorem sortedBy_sorted (xs : List α) :
    (sortedBy key xs).Pairwise (fun a b => key a ≤ key b) := by
  have transitive : ∀ a b c : α, decide (key a ≤ key b) = true → decide (key b ≤ key c) = true →
      decide (key a ≤ key c) = true := by
    intro a b c first second
    exact decide_eq_true (le_trans (of_decide_eq_true first) (of_decide_eq_true second))
  have total : ∀ a b : α, (decide (key a ≤ key b) || decide (key b ≤ key a)) = true := by
    intro a b
    rw [Bool.or_eq_true, decide_eq_true_eq, decide_eq_true_eq]
    exact le_total (key a) (key b)
  exact (List.pairwise_mergeSort transitive total xs).imp fun ordered => of_decide_eq_true ordered

/-- A sorted list stays as it is. -/
theorem sortedBy_of_sorted {xs : List α} (sorted : xs.Pairwise (fun a b => key a ≤ key b)) :
    sortedBy key xs = xs :=
  List.mergeSort_of_pairwise (sorted.imp fun ordered => decide_eq_true ordered)

/-- `sorted(xs, key=key)[-1]`, of a list that is not empty. -/
def sortedLast (xs : List α) : Option α := (sortedBy key xs).getLast?

theorem sortedLast_none_iff {xs : List α} : sortedLast key xs = none ↔ xs = [] := by
  rw [sortedLast, List.getLast?_eq_none_iff, sortedBy, ← List.length_eq_zero_iff,
    List.length_mergeSort, List.length_eq_zero_iff]

theorem sortedLast_mem {xs : List α} {last : α} (found : sortedLast key xs = some last) :
    last ∈ xs :=
  (mem_sortedBy key).mp (List.mem_of_getLast? found)

/-- No element has a greater key than the last one. -/
theorem sortedLast_greatest {xs : List α} {last : α} (found : sortedLast key xs = some last)
    {a : α} (member : a ∈ xs) : key a ≤ key last := by
  obtain ⟨before, split⟩ := List.getLast?_eq_some_iff.mp found
  have sorted := sortedBy_sorted key xs
  rw [split, List.pairwise_append] at sorted
  have placed := (mem_sortedBy key).mpr member
  rw [split, List.mem_append, List.mem_singleton] at placed
  rcases placed with earlier | rfl
  · exact sorted.2.2 a earlier last (List.mem_singleton_self last)
  · exact le_refl _

end OptionChain.SortedLists
