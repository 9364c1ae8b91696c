import Mathlib.Data.List.Induction
import Mathlib.Data.List.TakeWhile

/-!
# What a history says of the present

A history lists events, the oldest first. `Since set reset` says that some event has
set a fact and none has reset it after; `latest` reads the last value that an event
gave; `fromFirst` forgets what came before the first event of a kind.

Each has one rule for a further event, so that the state of a machine is compared
with them by induction from the end of the history.
-/

namespace OptionChain.PastTime

universe u v
variable {ε : Type u} {β : Type v}

/-- An event has set the fact, and none has reset it since. -/
def Since (set reset : ε → Bool) (history : List ε) : Prop :=
  ∃ before event after, history = before ++ event :: after ∧ set event = true ∧
    ∀ later ∈ after, reset later = false

section Facts

variable (set reset : ε → Bool)

theorem not_since_nil : ¬Since set reset [] := by
  rintro ⟨before, event, after, shape, -⟩
  simp at shape

/-- One more event sets the fact, or leaves it standing. -/
theorem since_concat (history : List ε) (event : ε) :
    Since set reset (history ++ [event]) ↔
      set event = true ∨ (reset event = false ∧ Since set reset history) := by
  constructor
  · rintro ⟨before, witness, after, shape, sets, kept⟩
    cases after using List.reverseRecOn with
    | nil =>
      obtain ⟨-, same⟩ := List.append_inj' shape rfl
      exact .inl (List.singleton_inj.mp same ▸ sets)
    | append_singleton earlier last =>
      rw [← List.cons_append, ← List.append_assoc] at shape
      obtain ⟨rfl, same⟩ := List.append_inj' shape rfl
      obtain rfl := List.singleton_inj.mp same
      refine .inr ⟨kept _ (by simp), before, witness, earlier, rfl, sets, ?_⟩
      intro later listed
      exact kept later (by simp [listed])
  · rintro (sets | ⟨stands, before, witness, after, rfl, sets, kept⟩)
    · exact ⟨history, event, [], rfl, sets, by simp⟩
    · refine ⟨before, witness, after ++ [event], by simp, sets, ?_⟩
      intro later listed
      rcases List.mem_append.mp listed with earlier | last
      · exact kept later earlier
      · rwa [List.mem_singleton.mp last]

/-- A flag that the events raise and lower is the fact. -/
theorem since_iff_flag (history : List ε) :
    Since set reset history ↔
      history.foldl (fun flag event => set event || (flag && !reset event)) false = true := by
  induction history using List.reverseRecOn with
  | nil => simp [not_since_nil]
  | append_singleton earlier event inductionHypothesis =>
    rw [since_concat, inductionHypothesis, List.foldl_append]
    cases sets : set event <;> cases resets : reset event <;> simp [sets, resets]

instance (history : List ε) : Decidable (Since set reset history) :=
  decidable_of_iff _ (since_iff_flag set reset history).symm

variable {set reset}

/-- Whatever sets a fact has happened. -/
theorem Since.happened {history : List ε} (holds : Since set reset history) :
    ∃ event ∈ history, set event = true := by
  obtain ⟨before, event, after, rfl, sets, -⟩ := holds
  exact ⟨event, by simp, sets⟩

/-- A fact with two kinds of reset stands for the first kind, and no event of the
second is left without a new setting. -/
theorem since_or {other : ε → Bool} (apart : ∀ event, set event = true → other event = false)
    (history : List ε) :
    Since set (fun event => reset event || other event) history ↔
      Since set reset history ∧ ¬Since other set history := by
  induction history using List.reverseRecOn with
  | nil => simp [not_since_nil]
  | append_singleton earlier event inductionHypothesis =>
    rw [since_concat, since_concat, since_concat, inductionHypothesis]
    cases sets : set event with
    | true => simp [apart event sets]
    | false => cases resets : reset event <;> cases others : other event <;> simp

/-- A fact that the history begins with has been reset or stands. -/
theorem since_of_begins (apart : ∀ event, set event = true → reset event = false) {first : ε}
    (begins : set first = true) (rest : List ε) :
    Since set reset (first :: rest) ↔ ¬Since reset set (first :: rest) := by
  induction rest using List.reverseRecOn with
  | nil =>
    have set_first := since_concat set reset [] first
    have reset_first := since_concat reset set [] first
    rw [List.nil_append] at set_first reset_first
    simp [set_first, reset_first, begins, apart first begins]
  | append_singleton earlier event inductionHypothesis =>
    rw [← List.cons_append, since_concat, since_concat, inductionHypothesis]
    cases sets : set event with
    | true => simp [apart event sets]
    | false => cases resets : reset event <;> simp

end Facts

/-- The last value that an event gives. -/
def latest (gives : ε → Option β) (history : List ε) : Option β :=
  history.reverse.findSome? gives

theorem latest_concat (gives : ε → Option β) (history : List ε) (event : ε) :
    latest gives (history ++ [event]) = (gives event).or (latest gives history) := by
  simp only [latest, List.reverse_append, List.reverse_singleton, List.singleton_append,
    List.findSome?_cons]
  cases gives event <;> rfl

/-- The history from the first event of a kind on. -/
def fromFirst (begins : ε → Bool) (history : List ε) : List ε :=
  history.dropWhile (fun event => !begins event)

section Beginnings

variable {begins : ε → Bool} {history : List ε}

theorem fromFirst_eq_nil_iff :
    fromFirst begins history = [] ↔ ∀ event ∈ history, begins event = false := by
  simp [fromFirst]

theorem fromFirst_concat (event : ε) :
    fromFirst begins (history ++ [event]) =
      if fromFirst begins history = [] then if begins event then [event] else []
      else fromFirst begins history ++ [event] := by
  unfold fromFirst
  rw [List.dropWhile_append]
  cases opens : begins event <;> simp [opens]

/-- It begins with such an event. -/
theorem fromFirst_begins (opened : fromFirst begins history ≠ []) :
    ∃ first rest, fromFirst begins history = first :: rest ∧ begins first = true := by
  obtain ⟨first, rest, shape⟩ := List.exists_cons_of_ne_nil opened
  refine ⟨first, rest, shape, ?_⟩
  have head := List.head_dropWhile_not (fun event => !begins event) opened
  simp only [fromFirst] at shape
  simpa [shape] using head

end Beginnings

end OptionChain.PastTime
