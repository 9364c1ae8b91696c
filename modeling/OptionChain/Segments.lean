import Mathlib.Data.List.Induction
import Mathlib.Order.Lattice
import OptionChain.Runs

/-!
# Segments of a stream

A stream is cut where the key of its items changes. What is known of the open segment
is kept in an accumulator, started by its first item and extended by the others; the
item that opens the next segment closes it. If the keys never decrease, a segment is all
that the stream has under one key, so the accumulator is a function of the
stream's items with that key, wherever the stream is cut.
-/

namespace OptionChain.Segments

open Runs

variable {α β κ : Type} [LinearOrder κ] (key : α → κ) (first : α → β) (extend : β → α → β)

/-- The open segment after one more item. -/
def step (segment : Option (κ × β)) (item : α) : Option (κ × β) :=
  match segment with
  | some (current, gathered) =>
      if current = key item then some (current, extend gathered item)
      else some (key item, first item)
  | none => some (key item, first item)

/-- The segment that an item closes. -/
def close (segment : Option (κ × β)) (item : α) : List (κ × β) :=
  match segment with
  | some (current, gathered) => if current = key item then [] else [(current, gathered)]
  | none => []

/-- The accumulator of some items. -/
def gather : List α → Option β
  | [] => none
  | item :: rest => some (rest.foldl extend (first item))

/-- The items of the stream under one key. -/
def under (items : List α) (current : κ) : List α :=
  items.filter fun item => decide (key item = current)

/-- The keys of a stream do not decrease. -/
def Ordered (items : List α) : Prop := items.Pairwise fun one other => key one ≤ key other

variable {key} {first} {extend} {items : List α} {current : κ} {gathered : β}

theorem gather_snoc (items : List α) (item : α) (gathered : β)
    (before : gather first extend items = some gathered) :
    gather first extend (items ++ [item]) = some (extend gathered item) := by
  cases items with
  | nil => cases before
  | cons head rest =>
    obtain rfl := Option.some.inj before
    simp only [gather, List.cons_append, List.foldl_append, List.foldl_cons, List.foldl_nil]

/-- The open segment is what the stream has under the key of its last item. -/
theorem run_eq (init : List α) (last : α) (ordered : Ordered key (init ++ [last])) :
    ∃ gathered, run (step key first extend) none (init ++ [last]) = some (key last, gathered) ∧
      gather first extend (under key (init ++ [last]) (key last)) = some gathered := by
  induction init using List.reverseRecOn generalizing last with
  | nil => exact ⟨first last, rfl, by simp [under, gather]⟩
  | append_singleton earlier previous inductionHypothesis =>
    obtain ⟨before, -, later⟩ := List.pairwise_append.mp ordered
    obtain ⟨gathered, opened, known⟩ := inductionHypothesis previous before
    rw [run_append, opened, run_cons, run_nil]
    have below : ∀ item ∈ earlier ++ [previous], key item ≤ key last :=
      fun item member => later item member last (List.mem_singleton_self last)
    by_cases same : key previous = key last
    · refine ⟨extend gathered last, ?_, ?_⟩
      · simp only [step, same, if_true]
      · have grown : under key (earlier ++ [previous] ++ [last]) (key last) =
            under key (earlier ++ [previous]) (key previous) ++ [last] := by
          rw [same, under, List.filter_append]
          simp [under]
        rw [grown]
        exact gather_snoc _ last gathered known
    · refine ⟨first last, ?_, ?_⟩
      · simp only [step, if_neg same]
      · have fresh : under key (earlier ++ [previous]) (key last) = [] := by
          apply List.filter_eq_nil_iff.mpr
          intro item member equal
          have upTo : key item ≤ key previous := by
            rcases List.mem_append.mp member with old | own
            · exact (List.pairwise_append.mp before).2.2 item old previous (by simp)
            · exact (List.mem_singleton.mp own) ▸ le_rfl
          rw [of_decide_eq_true equal] at upTo
          exact same (le_antisymm (below previous (by simp)) upTo)
        have alone : under key (earlier ++ [previous] ++ [last]) (key last) = [last] := by
          unfold under at fresh ⊢
          rw [List.filter_append, fresh]
          simp
        rw [alone]
        rfl

/-- A key that some item exceeds is exceeded first by one item. -/
theorem first_above (above : ∃ later ∈ items, current < key later) :
    ∃ before next after, items = before ++ next :: after ∧
      (∀ item ∈ before, key item ≤ current) ∧ current < key next := by
  induction items with
  | nil => simp at above
  | cons head rest inductionHypothesis =>
    rcases lt_or_ge current (key head) with larger | below
    · exact ⟨[], head, rest, rfl, by simp, larger⟩
    · obtain ⟨later, member, larger⟩ := above
      have inside : later ∈ rest := by
        rcases List.mem_cons.mp member with rfl | inside
        · exact absurd larger (not_lt_of_ge below)
        · exact inside
      obtain ⟨before, next, after, rfl, upTo, found⟩ :=
        inductionHypothesis ⟨later, inside, larger⟩
      refine ⟨head :: before, next, after, rfl, ?_, found⟩
      intro item member
      rcases List.mem_cons.mp member with rfl | member
      · exact below
      · exact upTo item member

/-- The whole stream has no more under a key than the part before a larger key. -/
theorem under_before {before after : List α} {next : α}
    (ordered : Ordered key (before ++ next :: after)) (larger : current < key next) :
    under key (before ++ next :: after) current = under key before current := by
  have tail := (List.pairwise_append.mp ordered).2.1
  have beyond : (next :: after).filter (fun item => decide (key item = current)) = [] := by
    apply List.filter_eq_nil_iff.mpr
    intro item member equal
    have equal := of_decide_eq_true equal
    rcases List.mem_cons.mp member with rfl | member
    · exact absurd equal (ne_of_gt larger)
    · exact absurd (equal ▸ (List.pairwise_cons.mp tail).1 item member) (not_le_of_gt larger)
  unfold under
  rw [List.filter_append, beyond, List.append_nil]

/-- The closed segments are the keys of the stream below another one, each with what the
whole stream has under it. -/
theorem mem_closed (ordered : Ordered key items) :
    (current, gathered) ∈ sent (step key first extend) (close key) none items ↔
      (∃ item ∈ items, key item = current) ∧ (∃ later ∈ items, current < key later) ∧
        gather first extend (under key items current) = some gathered := by
  rw [mem_sent]
  constructor
  · rintro ⟨before, next, after, rfl, closed⟩
    rcases List.eq_nil_or_concat before with rfl | ⟨init, last, rfl⟩
    · cases closed
    · rw [List.concat_eq_append] at ordered closed ⊢
      obtain ⟨early, -, later⟩ := List.pairwise_append.mp ordered
      obtain ⟨found, opened, known⟩ : ∃ found, run (step key first extend) none (init ++ [last]) =
          some (key last, found) ∧ _ := run_eq init last early
      rw [opened] at closed
      simp only [close] at closed
      by_cases same : key last = key next
      · rw [if_pos same] at closed
        cases closed
      · rw [if_neg same, List.mem_singleton, Prod.mk.injEq] at closed
        obtain ⟨rfl, rfl⟩ := closed
        have larger : key last < key next :=
          lt_of_le_of_ne (later last (by simp) next (by simp)) same
        exact ⟨⟨last, by simp, rfl⟩, ⟨next, by simp, larger⟩,
          by rw [under_before ordered larger, known]⟩
  · rintro ⟨⟨item, member, own⟩, above, known⟩
    obtain ⟨before, next, after, rfl, upTo, larger⟩ := first_above above
    obtain ⟨early, tail, -⟩ := List.pairwise_append.mp ordered
    have inside : item ∈ before := by
      rcases List.mem_append.mp member with inside | beyond
      · exact inside
      · rcases List.mem_cons.mp beyond with rfl | beyond
        · exact absurd own (ne_of_gt larger)
        · exact absurd (own ▸ (List.pairwise_cons.mp tail).1 item beyond) (not_le_of_gt larger)
    refine ⟨before, next, after, rfl, ?_⟩
    rw [under_before ordered larger] at known
    rcases List.eq_nil_or_concat before with rfl | ⟨init, last, rfl⟩
    · cases inside
    · rw [List.concat_eq_append] at early inside upTo known ⊢
      have last_own : key last = current := by
        apply le_antisymm (upTo last (by simp))
        rcases List.mem_append.mp inside with old | single
        · exact own ▸ (List.pairwise_append.mp early).2.2 item old last (by simp)
        · exact (List.mem_singleton.mp single) ▸ own ▸ le_rfl
      obtain ⟨found, opened, gatheredHere⟩ : ∃ found, run (step key first extend) none
          (init ++ [last]) = some (key last, found) ∧ _ := run_eq init last early
      rw [last_own, known] at gatheredHere
      obtain rfl := Option.some.inj gatheredHere
      rw [opened, last_own]
      simp only [close, if_neg (ne_of_lt larger)]
      exact List.mem_singleton_self _

end OptionChain.Segments
