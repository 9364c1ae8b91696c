import Mathlib.Order.Basic

/-!
# Endless runs of an event-driven machine

An endless run handles one event after the other for ever, so what is promised for
some later time can be stated of it. `LeadsTo` says that wherever one condition holds
another one holds there or later. It is proved from what the machine waits for: whoever
drives the machine promises that it is not left waiting for ever, and the condition stays
until the answer comes.

The conditions are on the places of the run, so they may speak of the state there and
of the event handled there.
-/

namespace OptionChain.EndlessRuns

universe u v
variable {σ : Type u} {ε : Type v}

section Traces

variable (step : σ → ε → σ) (start : σ) (events : ℕ → ε)

/-- The state before each event. -/
def trace : ℕ → σ
  | 0 => start
  | n + 1 => step (trace n) (events n)

variable {step start events}

/-- An invariant of the start that each admitted step preserves holds for ever. -/
theorem trace_invariant {ok : σ → ε → Prop} {invariant : σ → Prop}
    (preserved : ∀ state event, invariant state → ok state event →
      invariant (step state event))
    (initially : invariant start)
    (admitted : ∀ n, ok (trace step start events n) (events n)) (n : ℕ) :
    invariant (trace step start events n) := by
  induction n with
  | zero => exact initially
  | succ n inductionHypothesis => exact preserved _ _ inductionHypothesis (admitted n)

end Traces

section Promises

variable (step : σ → ε → σ) (start : σ) (events : ℕ → ε)

/-- A machine that waits from some place on for ever is answered there or later. -/
def Answered (waits : σ → Prop) (answer : ε → Prop) : Prop :=
  ∀ n, (∀ m ≥ n, waits (trace step start events m)) → ∃ m ≥ n, answer (events m)

/-- Wherever the one condition holds the other one holds there or later. -/
def LeadsTo (here there : ℕ → Prop) : Prop := ∀ n, here n → ∃ m ≥ n, there m

variable {step start events} {waits : σ → Prop} {answer : ε → Prop}
  {here middle there : ℕ → Prop}

/-- A condition under which the machine waits leads to what the answer brings about, if it
stays until then. -/
theorem leadsTo_of_answered (fair : Answered step start events waits answer)
    (waiting : ∀ n, here n → waits (trace step start events n))
    (moves : ∀ n, here n → there n ∨ there (n + 1) ∨ here (n + 1) ∧ ¬ answer (events n)) :
    LeadsTo here there := by
  intro n holds
  by_contra never
  have none : ∀ m ≥ n, ¬ there m := fun m later reached => never ⟨m, later, reached⟩
  have stays : ∀ m ≥ n, here m → here (m + 1) ∧ ¬ answer (events m) := by
    intro m later present
    exact ((moves m present).resolve_left (none m later)).resolve_left
      (none (m + 1) (Nat.le_succ_of_le later))
  have always : ∀ m ≥ n, here m := by
    intro m later
    induction later with
    | refl => exact holds
    | step later inductionHypothesis => exact (stays _ later inductionHypothesis).1
  obtain ⟨m, later, answered⟩ := fair n fun m later => waiting m (always m later)
  exact (stays m later (always m later)).2 answered

/-- What leads to the goal or to a condition that leads there leads there. -/
theorem LeadsTo.through (first : LeadsTo here fun n => there n ∨ middle n)
    (second : LeadsTo middle there) : LeadsTo here there := by
  intro n holds
  obtain ⟨m, later, reached | further⟩ := first n holds
  · exact ⟨m, later, reached⟩
  · obtain ⟨k, latest, reached⟩ := second m further
    exact ⟨k, Nat.le_trans later latest, reached⟩

/-- Conditions with one goal lead there together. -/
theorem LeadsTo.or (first : LeadsTo here there) (second : LeadsTo middle there) :
    LeadsTo (fun n => here n ∨ middle n) there := by
  rintro n (holds | holds)
  · exact first n holds
  · exact second n holds

end Promises

end OptionChain.EndlessRuns
