import Mathlib.Data.List.AList
import Mathlib.Data.List.DropRight
import Mathlib.Order.Bounds.Basic

/-!
# The last element of each bucket of a sequence

A sequence that arrives in order is resampled by a bucket function: one dictionary
entry a bucket, overwritten by every element of it. `lookup_groups` says that the
entry is the last element of its bucket. When only a bounded window of the
sequence is kept, every bucket that the window still meets has the same last
element as in the whole sequence.

The greatest element and the one before it are read off an increasing list by
`greatest_last` and `greatest_before`.
-/

namespace OptionChain.Buckets

universe u v
variable {α : Type u} {γ : Type v} [DecidableEq γ] (bucket : α → γ)

/-- The last element of a bucket. -/
def lastIn (xs : List α) (g : γ) : Option α := (xs.filter (fun x => bucket x = g)).getLast?

/-- A dictionary entry for every bucket, overwritten in the order of arrival. -/
def groups (xs : List α) : AList (fun _ : γ => α) :=
  xs.foldl (fun entries x => entries.insert (bucket x) x) ∅

theorem lastIn_snoc (xs : List α) (x : α) (g : γ) :
    lastIn bucket (xs ++ [x]) g = if bucket x = g then some x else lastIn bucket xs g := by
  by_cases here : bucket x = g
  · simp [lastIn, List.filter_append, here]
  · simp [lastIn, List.filter_append, here]

/-- An entry of the dictionary is the last element of its bucket. -/
theorem lookup_groups (xs : List α) (g : γ) :
    (groups bucket xs).lookup g = lastIn bucket xs g := by
  induction xs using List.reverseRecOn with
  | nil => rfl
  | append_singleton xs x inductionHypothesis =>
    rw [lastIn_snoc, groups, List.foldl_append, List.foldl_cons, List.foldl_nil]
    by_cases here : bucket x = g
    · subst here
      rw [AList.lookup_insert, if_pos rfl]
    · rw [AList.lookup_insert_ne (Ne.symm here), if_neg here]
      exact inductionHypothesis

theorem lastIn_spec {xs : List α} {g : γ} {x : α} (last : lastIn bucket xs g = some x) :
    x ∈ xs ∧ bucket x = g := by
  have member := List.mem_of_getLast? last
  simpa using member

/-- A bucket that some element meets has a last one. -/
theorem lastIn_exists {xs : List α} {x : α} (member : x ∈ xs) :
    ∃ last, lastIn bucket xs (bucket x) = some last := by
  apply Option.ne_none_iff_exists'.mp
  intro none
  have empty := List.getLast?_eq_none_iff.mp none
  have here : x ∈ xs.filter (fun y => bucket y = bucket x) := by simp [member]
  rw [empty] at here
  cases here

/-- Earlier elements do not matter for a bucket that is met later. -/
theorem lastIn_append {xs ys : List α} {y : α} (met : y ∈ ys) :
    lastIn bucket (xs ++ ys) (bucket y) = lastIn bucket ys (bucket y) := by
  obtain ⟨last, found⟩ := lastIn_exists bucket met
  rw [lastIn, List.filter_append, List.getLast?_append]
  rw [show (ys.filter fun x => bucket x = bucket y).getLast? = some last from found, found]
  rfl

/-- Later elements do not matter for a bucket that they do not meet. -/
theorem lastIn_append_unmet {xs ys : List α} {g : γ} (unmet : ∀ y ∈ ys, bucket y ≠ g) :
    lastIn bucket (xs ++ ys) g = lastIn bucket xs g := by
  have empty : ys.filter (fun y => bucket y = g) = [] := by simpa using unmet
  rw [lastIn, List.filter_append, empty, List.append_nil, lastIn]

/-- The entries whose bucket is admitted. -/
def keep (wanted : γ → Bool) (entries : AList (fun _ : γ => α)) : AList (fun _ : γ => α) where
  entries := entries.entries.filter (fun entry => wanted entry.1)
  nodupKeys := entries.nodupKeys.sublist List.filter_sublist

theorem mem_lookup_keep {wanted : γ → Bool} {entries : AList (fun _ : γ => α)} {g : γ} {x : α} :
    (keep wanted entries).lookup g = some x ↔ wanted g = true ∧ entries.lookup g = some x := by
  have inner := @AList.mem_lookup_iff γ (fun _ => α) _ g x
  rw [← Option.mem_def, inner, ← Option.mem_def, inner]
  simp [keep, and_comm]

theorem lastIn_map {β : Type u} (f : β → α) (xs : List β) (g : γ) :
    lastIn bucket (xs.map f) g = (lastIn (fun x => bucket (f x)) xs g).map f := by
  rw [lastIn, lastIn, List.filter_map, List.getLast?_map]
  rfl

/-- Two bucket functions that single out the same elements have the same last one. -/
theorem lastIn_congr {δ : Type v} [DecidableEq δ] {other : α → δ} {xs : List α} {g : γ} {d : δ}
    (same : ∀ x ∈ xs, bucket x = g ↔ other x = d) : lastIn bucket xs g = lastIn other xs d := by
  rw [lastIn, lastIn]
  congr 1
  apply List.filter_congr
  intro x member
  exact decide_eq_decide.mpr (same x member)

omit [DecidableEq γ] in
/-- A window that slides by one keeps the last elements of the whole sequence. -/
theorem rtake_snoc (n : Nat) (xs : List α) (x : α) :
    (xs.rtake n ++ [x]).rtake n = (xs ++ [x]).rtake n := by
  cases n with
  | zero => simp
  | succ n =>
    rw [List.rtake_concat_succ, List.rtake_concat_succ]
    congr 1
    rw [List.rtake, List.rtake, List.rtake, List.drop_drop, List.length_drop]
    congr 1
    omega

theorem rtake_suffix (n : Nat) (xs : List α) : xs.rtake n <:+ xs := List.drop_suffix _ _

section Greatest

variable {β : Type v} [LinearOrder β]

/-- The last element of an increasing list is its greatest. -/
theorem greatest_last {xs : List β} (increasing : xs.Pairwise (· < ·)) {g : β}
    (last : xs.getLast? = some g) : IsGreatest {x | x ∈ xs} g := by
  obtain ⟨init, rfl⟩ := List.getLast?_eq_some_iff.mp last
  obtain ⟨_, _, below⟩ := List.pairwise_append.mp increasing
  refine ⟨by simp, ?_⟩
  intro x member
  rcases List.mem_append.mp member with early | late
  · exact le_of_lt (below x early g (by simp))
  · exact le_of_eq (List.mem_singleton.mp late)

/-- The element before the last one is the greatest below it. -/
theorem greatest_before {xs : List β} (increasing : xs.Pairwise (· < ·)) {g p : β}
    (last : xs.getLast? = some g) (before : xs.dropLast.getLast? = some p) :
    IsGreatest {x | x ∈ xs ∧ x < g} p := by
  obtain ⟨init, rfl⟩ := List.getLast?_eq_some_iff.mp last
  rw [List.dropLast_concat] at before
  obtain ⟨initIncreasing, _, below⟩ := List.pairwise_append.mp increasing
  obtain ⟨member, greatest⟩ := greatest_last initIncreasing before
  have inside : p ∈ init := member
  refine ⟨⟨by simp [inside], below p inside g (by simp)⟩, ?_⟩
  rintro x ⟨found, smaller⟩
  rcases List.mem_append.mp found with early | late
  · exact greatest early
  · rw [List.mem_singleton.mp late] at smaller
    exact absurd smaller (lt_irrefl g)

end Greatest

end OptionChain.Buckets
