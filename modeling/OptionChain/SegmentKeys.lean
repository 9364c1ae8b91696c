import Mathlib.Data.List.Destutter
import Mathlib.Data.List.Nodup
import Mathlib.Order.Lattice
import OptionChain.Segments

/-!
# The keys of the segments of a stream

The segments of a stream carry its keys with repetitions in a row removed; the open one
carries the last of them. A stream that may come back to a key that it has left closes two
segments under it exactly if it leaves it again.
-/

namespace OptionChain.SegmentKeys

open List Runs Segments

variable {α β κ : Type}

section Repetitions

variable [DecidableEq κ] {keys selected : List κ} {first current : κ}

/-- A sublist without repetitions in a row is one of what is left of the list. -/
theorem sublist_destutter' (chain : selected.IsChain (· ≠ ·)) (sub : selected <+ first :: keys) :
    selected <+ keys.destutter' (· ≠ ·) first := by
  induction keys generalizing first selected with
  | nil => simpa using sub
  | cons next rest inductionHypothesis =>
    by_cases differ : first ≠ next
    · rw [destutter'_cons_pos rest differ]
      cases sub with
      | cons _ skipped => exact (inductionHypothesis chain skipped).cons first
      | cons_cons _ taken =>
        exact (inductionHypothesis (isChain_cons.mp chain).2 taken).cons_cons first
    · rw [destutter'_cons_neg rest differ]
      obtain rfl := not_not.mp differ
      apply inductionHypothesis chain
      cases sub with
      | cons _ skipped => exact skipped
      | cons_cons _ taken =>
        -- what follows the first key differs from it, so it is not the repetition
        rename_i others
        cases taken with
        | cons _ later => exact later.cons_cons first
        | cons_cons _ later => exact absurd rfl ((isChain_cons_cons.mp chain).1)

theorem sublist_destutter (chain : selected.IsChain (· ≠ ·)) (sub : selected <+ keys) :
    selected <+ keys.destutter (· ≠ ·) := by
  cases keys with
  | nil => simpa using sub
  | cons first rest => exact sublist_destutter' chain sub

/-- The keys come back to one that they have left, and leave it again. -/
def Returns (keys : List κ) : Prop :=
  ∃ current away after, away ≠ current ∧ after ≠ current ∧
    [current, away, current, after] <+ keys

omit [DecidableEq κ] in
/-- Between two occurrences of a key in a row without repetitions there is another key. -/
theorem exists_between (chain : keys.IsChain (· ≠ ·)) (twice : [current, current] <+ keys) :
    ∃ away, away ≠ current ∧ [current, away, current] <+ keys := by
  induction keys with
  | nil => cases twice
  | cons head rest inductionHypothesis =>
    obtain ⟨apart, later⟩ := isChain_cons.mp chain
    cases twice with
    | cons _ skipped =>
      obtain ⟨away, differs, found⟩ := inductionHypothesis later skipped
      exact ⟨away, differs, found.cons head⟩
    | cons_cons _ taken =>
      cases rest with
      | nil => cases taken
      | cons next others =>
        have differs : next ≠ current := Ne.symm (apart next (by simp))
        refine ⟨next, differs, Sublist.cons_cons current ?_⟩
        cases taken with
        | cons _ further => exact further.cons_cons next
        | cons_cons _ _ => exact absurd rfl differs

omit [DecidableEq κ] in
/-- An occurrence other than the last one is followed by another key. -/
theorem exists_after (chain : keys.IsChain (· ≠ ·))
    (early : selected ++ [current] <+ keys.dropLast) :
    ∃ after, after ≠ current ∧ selected ++ [current, after] <+ keys := by
  induction keys generalizing selected with
  | nil => simp at early
  | cons head rest inductionHypothesis =>
    obtain ⟨apart, later⟩ := isChain_cons.mp chain
    cases rest with
    | nil => simp at early
    | cons next others =>
      rw [dropLast_cons_of_ne_nil (by simp)] at early
      cases selected with
      | nil =>
        cases early with
        | cons _ skipped =>
          obtain ⟨after, differs, found⟩ := @inductionHypothesis [] later skipped
          exact ⟨after, differs, found.cons head⟩
        | cons_cons _ _ =>
          refine ⟨next, Ne.symm (apart next (by simp)), ?_⟩
          exact ((nil_sublist others).cons_cons next).cons_cons current
      | cons kept selected =>
        cases early with
        | cons _ skipped =>
          obtain ⟨after, differs, found⟩ := @inductionHypothesis (kept :: selected) later skipped
          exact ⟨after, differs, found.cons head⟩
        | cons_cons _ taken =>
          obtain ⟨after, differs, found⟩ := inductionHypothesis later taken
          exact ⟨after, differs, found.cons_cons head⟩

omit [DecidableEq κ] in
theorem dropLast_sublist_dropLast (sub : selected <+ keys) :
    selected.dropLast <+ keys.dropLast := by
  have backwards := sub.reverse.tail
  rwa [tail_reverse, tail_reverse, reverse_sublist] at backwards

/-- Where the last of the keys is left out, a key occurs twice exactly if the keys come
back to it and leave it again. -/
theorem not_nodup_iff_returns :
    ¬ ((keys.destutter (· ≠ ·)).dropLast).Nodup ↔ Returns keys := by
  have chain := isChain_destutter (· ≠ ·) keys
  constructor
  · intro repeated
    obtain ⟨current, twice⟩ : ∃ current,
        [current, current] <+ (keys.destutter (· ≠ ·)).dropLast := by
      by_contra none
      exact repeated (nodup_iff_sublist.mpr (fun current twice => none ⟨current, twice⟩))
    obtain ⟨away, left, between⟩ := exists_between chain.dropLast twice
    obtain ⟨after, leaves, found⟩ :=
      exists_after chain (show [current, away] ++ [current] <+ _ from between)
    exact ⟨current, away, after, left, leaves, found.trans (destutter_sublist _ keys)⟩
  · rintro ⟨current, away, after, left, leaves, sub⟩ distinct
    have shape : [current, away, current, after].IsChain (· ≠ ·) := by
      simp [left.symm, left, leaves.symm]
    have early : [current, away, current] <+ (keys.destutter (· ≠ ·)).dropLast :=
      dropLast_sublist_dropLast (sublist_destutter shape sub)
    have twice : [current, current] <+ [current, away, current] :=
      ((Sublist.refl [current]).cons away).cons_cons current
    exact nodup_iff_sublist.mp distinct current (twice.trans early)

end Repetitions

section Closed

variable [LinearOrder κ] {key : α → κ} {first : α → β} {extend : β → α → β} {items : List α}

/-- The keys of the closed segments and of the open one, from an open segment on. -/
theorem closed_keys_from (items : List α) (current : κ) (gathered : β) :
    ∃ last, (run (step key first extend) (some (current, gathered)) items).map Prod.fst =
        some last ∧
      (sent (step key first extend) (close key) (some (current, gathered)) items).map Prod.fst ++
        [last] = (items.map key).destutter' (· ≠ ·) current := by
  induction items generalizing current gathered with
  | nil => exact ⟨current, rfl, rfl⟩
  | cons item rest inductionHypothesis =>
    rw [run_cons, sent, List.map_cons]
    by_cases same : current = key item
    · obtain ⟨last, opened, keys⟩ := inductionHypothesis current (extend gathered item)
      refine ⟨last, ?_, ?_⟩
      · simp only [step, if_pos same]
        exact opened
      · simp only [step, close, if_pos same, List.nil_append]
        rw [keys, destutter'_cons_neg _ (not_not.mpr same)]
    · obtain ⟨last, opened, keys⟩ := inductionHypothesis (key item) (first item)
      refine ⟨last, ?_, ?_⟩
      · simp only [step, if_neg same]
        exact opened
      · simp only [step, close, if_neg same, List.map_cons, List.cons_append, List.nil_append]
        rw [keys, destutter'_cons_pos _ same]

/-- The segments have the keys of the stream without repetitions in a row, and the last of
these is not closed. -/
theorem closed_keys (items : List α) :
    (sent (step key first extend) (close key) none items).map Prod.fst =
      ((items.map key).destutter (· ≠ ·)).dropLast := by
  cases items with
  | nil => rfl
  | cons item rest =>
    obtain ⟨last, -, keys⟩ : ∃ last, _ ∧ _ =
        (rest.map key).destutter' (· ≠ ·) (key item) :=
      @closed_keys_from α β κ _ key first extend rest (key item) (first item)
    rw [List.map_cons, destutter_cons', ← keys, dropLast_concat]
    rfl

/-- Ordered keys without repetitions in a row increase strictly. -/
theorem increasing_of_chain {keys : List κ} (ordered : keys.Pairwise (· ≤ ·))
    (chain : keys.IsChain (· ≠ ·)) : keys.Pairwise (· < ·) := by
  induction keys with
  | nil => exact Pairwise.nil
  | cons head rest inductionHypothesis =>
    obtain ⟨below, later⟩ := pairwise_cons.mp ordered
    obtain ⟨apart, others⟩ := isChain_cons.mp chain
    have increasing := inductionHypothesis later others
    refine pairwise_cons.mpr ⟨?_, increasing⟩
    intro key member
    cases rest with
    | nil => cases member
    | cons next rest =>
      have next_above : head < next :=
        lt_of_le_of_ne (below next mem_cons_self) (apart next (by simp))
      rcases mem_cons.mp member with rfl | further
      · exact next_above
      · exact next_above.trans ((pairwise_cons.mp increasing).1 key further)

end Closed

end OptionChain.SegmentKeys
