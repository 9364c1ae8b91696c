import Mathlib.Data.List.AList

/-!
# Loops over distinct keys

A loop whose body for one key touches only what is seen at that key does to each
key what its own round does, and leaves every other key alone. The order of the
keys does not matter.
-/

namespace OptionChain.KeyedLoops

universe u v w
variable {σ : Type u} {κ : Type v} {β : Type w} [DecidableEq κ]

/-- The body changes the view of its own key only, by a function of that view. -/
structure Keyed (view : σ → κ → β) (body : σ → κ → σ) (change : κ → β → β) : Prop where
  own : ∀ state key, view (body state key) key = change key (view state key)
  other : ∀ state key seen, seen ≠ key → view (body state key) seen = view state seen

/-- What a loop over distinct keys does to the view of one of them. -/
theorem foldl_view {view : σ → κ → β} {body : σ → κ → σ} {change : κ → β → β}
    (keyed : Keyed view body change) (keys : List κ) (distinct : keys.Nodup) (state : σ)
    (seen : κ) :
    view (keys.foldl body state) seen =
      if seen ∈ keys then change seen (view state seen) else view state seen := by
  induction keys generalizing state with
  | nil => simp
  | cons key rest inductionHypothesis =>
    obtain ⟨fresh, others⟩ := List.nodup_cons.mp distinct
    rw [List.foldl_cons, inductionHypothesis others]
    by_cases same : seen = key
    · subst same
      simp [fresh, keyed.own]
    · rw [keyed.other state key seen same]
      simp [same]

/-- A loop over the keys that a second table lacks, where a key of neither table would
change nothing. -/
theorem foldl_missing {α : Type*} {γ : Type*} {view : σ → κ → β} {body : σ → κ → σ}
    {change : κ → β → β} (keyed : Keyed view body change) (table : AList (fun _ : κ => α))
    (other : AList (fun _ : κ => γ)) (state : σ) (seen : κ)
    (idle : table.lookup seen = none → change seen (view state seen) = view state seen) :
    view ((table.keys.filter (· ∉ other)).foldl body state) seen =
      match other.lookup seen with
      | none => change seen (view state seen)
      | some _ => view state seen := by
  rw [foldl_view keyed _ ((AList.keys_nodup _).filter _)]
  simp only [List.mem_filter, ← AList.mem_keys, decide_eq_true_eq]
  cases found : other.lookup seen with
  | none =>
    have absent : seen ∉ other := AList.lookup_eq_none.mp found
    by_cases listed : seen ∈ table
    · rw [if_pos ⟨listed, absent⟩]
    · rw [if_neg (fun both => listed both.1)]
      exact (idle (AList.lookup_eq_none.mpr listed)).symm
  | some value =>
    have present : seen ∈ other := AList.lookup_isSome.mp (by simp [found])
    exact if_neg (fun both => both.2 present)

end OptionChain.KeyedLoops
