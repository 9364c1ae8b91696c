import Mathlib.Data.List.Basic

/-!
# Runs of an event-driven machine

A machine is a step function on states; a run folds it over the events in the
order in which they are handled. `Along` states a condition at every step of one
run, on the state before the step and the event handled there, so a property may
be claimed for exactly the runs whose steps all meet it.

The rules below carry an invariant along such a run and delete events that
change nothing. They mention no particular machine.
-/

namespace OptionChain.Runs

universe u v w
variable {σ : Type u} {ε : Type v} {ω : Type w} (step : σ → ε → σ)

/-- The state after handling every event in order. -/
def run (start : σ) (events : List ε) : σ := events.foldl step start

@[simp] theorem run_nil (start : σ) : run step start [] = start := rfl

@[simp] theorem run_cons (start : σ) (event : ε) (rest : List ε) :
    run step start (event :: rest) = run step (step start event) rest := rfl

@[simp] theorem run_append (start : σ) (first second : List ε) :
    run step start (first ++ second) = run step (run step start first) second := by
  simp [run]

/-- The condition holds of the state before each step and the event handled. -/
def Along (ok : σ → ε → Prop) : σ → List ε → Prop
  | _, [] => True
  | state, event :: rest => ok state event ∧ Along ok (step state event) rest

/-- Decidable conditions stay decidable along a run. -/
instance alongDecidable (ok : σ → ε → Prop) [∀ state event, Decidable (ok state event)] :
    ∀ (state : σ) (events : List ε), Decidable (Along step ok state events)
  | _, [] => .isTrue trivial
  | state, event :: rest =>
      have := alongDecidable ok (step state event) rest
      inferInstanceAs (Decidable (ok state event ∧ Along step ok (step state event) rest))

/-- A condition holds along a longer run when it holds along both of its parts. -/
theorem along_append (ok : σ → ε → Prop) (start : σ) (first second : List ε) :
    Along step ok start (first ++ second) ↔
      Along step ok start first ∧ Along step ok (run step start first) second := by
  induction first generalizing start with
  | nil => simp [Along]
  | cons event rest inductionHypothesis =>
    simp [Along, inductionHypothesis, and_assoc]

/-- A condition holds along a run when it holds at each event, in the state that the events
before it leave. -/
theorem along_split (ok : σ → ε → Prop) (start : σ) (events : List ε) :
    Along step ok start events ↔ ∀ before event after, events = before ++ event :: after →
      ok (run step start before) event := by
  constructor
  · rintro holds before event after rfl
    exact ((along_append step ok start before (event :: after)).mp holds).2.1
  · intro everywhere
    induction events generalizing start with
    | nil => trivial
    | cons event rest inductionHypothesis =>
      refine ⟨everywhere [] event rest rfl, inductionHypothesis _ ?_⟩
      rintro before later after rfl
      exact everywhere (event :: before) later after rfl

/-- A condition on the events alone holds along a run of such events. -/
theorem along_always {ok : σ → ε → Prop} (start : σ) (events : List ε)
    (always : ∀ event ∈ events, ∀ state, ok state event) : Along step ok start events := by
  induction events generalizing start with
  | nil => trivial
  | cons event rest inductionHypothesis =>
    have first : ok start event := always event (by simp) start
    refine ⟨first, inductionHypothesis _ ?_⟩
    intro later member
    exact always later (by simp [member])

/-- An invariant of the start, preserved by each admitted step, holds at the end
of every run whose steps are all admitted. -/
theorem along_invariant {ok : σ → ε → Prop} {invariant : σ → Prop}
    (preserved : ∀ state event, invariant state → ok state event →
      invariant (step state event))
    (start : σ) (events : List ε) (initially : invariant start)
    (admitted : Along step ok start events) : invariant (run step start events) := by
  induction events generalizing start with
  | nil => exact initially
  | cons event rest inductionHypothesis =>
    obtain ⟨first, later⟩ := admitted
    exact inductionHypothesis (step start event) (preserved start event initially first) later

/-- A condition that keeps an invariant gives, at every step, what it gives under the
invariant. -/
theorem along_under {ok other : σ → ε → Prop} {invariant : σ → Prop}
    (preserved : ∀ state event, invariant state → ok state event →
      invariant (step state event))
    (gives : ∀ state event, invariant state → ok state event → other state event)
    (start : σ) (events : List ε) (initially : invariant start)
    (admitted : Along step ok start events) : Along step other start events := by
  induction events generalizing start with
  | nil => trivial
  | cons event rest inductionHypothesis =>
    obtain ⟨first, later⟩ := admitted
    have after := preserved start event initially first
    exact ⟨gives start event initially first, inductionHypothesis (step start event) after later⟩

/-- A condition may be weakened along a run. -/
theorem along_imp {ok other : σ → ε → Prop} (weaker : ∀ state event, ok state event →
    other state event) (start : σ) (events : List ε) (holds : Along step ok start events) :
    Along step other start events := by
  induction events generalizing start with
  | nil => trivial
  | cons event rest inductionHypothesis =>
    obtain ⟨first, later⟩ := holds
    exact ⟨weaker start event first, inductionHypothesis (step start event) later⟩

/-- A condition on a part of the state holds along the run of that part. -/
theorem along_part {τ : Type*} {other : τ → ε → τ} (part : σ → τ)
    (follows : ∀ state event, part (step state event) = other (part state) event)
    (ok : τ → ε → Prop) (start : σ) (events : List ε) :
    Along step (fun state event => ok (part state) event) start events ↔
      Along other ok (part start) events := by
  induction events generalizing start with
  | nil => exact Iff.rfl
  | cons event rest inductionHypothesis =>
    apply and_congr_right
    intro _
    rw [← follows]
    exact inductionHypothesis (step start event)

/-- Two conditions that agree wherever an invariant holds agree along every run. -/
theorem along_congr {ok other : σ → ε → Prop} {invariant : σ → Prop}
    (preserved : ∀ state event, invariant state → invariant (step state event))
    (agree : ∀ state event, invariant state → (ok state event ↔ other state event))
    (start : σ) (events : List ε) (initially : invariant start) :
    Along step ok start events ↔ Along step other start events := by
  induction events generalizing start with
  | nil => exact Iff.rfl
  | cons event rest inductionHypothesis =>
    apply and_congr
    · exact agree start event initially
    · exact inductionHypothesis (step start event) (preserved start event initially)

/-- In the runs that are considered at all, two conditions agree at every step when each
step that meets the first keeps an invariant under which they agree. -/
theorem along_iff {admitted ok other : σ → ε → Prop} {invariant : σ → Prop}
    (preserved : ∀ state event, invariant state → admitted state event → ok state event →
      invariant (step state event))
    (agree : ∀ state event, invariant state → admitted state event →
      (ok state event ↔ other state event))
    (start : σ) (events : List ε) (initially : invariant start)
    (within : Along step admitted start events) :
    Along step ok start events ↔ Along step other start events := by
  induction events generalizing start with
  | nil => exact Iff.rfl
  | cons event rest inductionHypothesis =>
    obtain ⟨here, later⟩ := within
    have same := agree start event initially here
    constructor
    · rintro ⟨first, onward⟩
      have after := preserved start event initially here first
      exact ⟨same.mp first, (inductionHypothesis _ after later).mp onward⟩
    · rintro ⟨first, onward⟩
      have after := preserved start event initially here (same.mpr first)
      exact ⟨same.mpr first, (inductionHypothesis _ after later).mpr onward⟩

/-- Two conditions agree along every run when a step that meets the first keeps an
invariant under which they agree. -/
theorem along_agree {ok other : σ → ε → Prop} {invariant : σ → Prop}
    (preserved : ∀ state event, invariant state → ok state event →
      invariant (step state event))
    (agree : ∀ state event, invariant state → (ok state event ↔ other state event))
    (start : σ) (events : List ε) (initially : invariant start) :
    Along step ok start events ↔ Along step other start events := by
  have everywhere : ∀ state, Along step (fun _ _ => True) state events := by
    induction events with
    | nil => exact fun _ => trivial
    | cons event rest inductionHypothesis =>
      exact fun state => ⟨trivial, inductionHypothesis (step state event)⟩
  exact along_iff step (fun state event holds _ => preserved state event holds)
    (fun state event holds _ => agree state event holds) start events initially (everywhere start)

/-- Where one step keeps a property exactly on a condition, it holds after every
step of a run exactly when the condition does at every step. -/
theorem along_exact {good invariant : σ → Prop} {ok : σ → ε → Prop}
    (kept : ∀ state event, invariant state → good state → invariant (step state event))
    (exact : ∀ state event, invariant state → good state →
      (good (step state event) ↔ ok state event))
    (start : σ) (events : List ε) (initially : invariant start) (holds : good start) :
    Along step (fun state event => good (step state event)) start events ↔
      Along step ok start events := by
  induction events generalizing start with
  | nil => exact Iff.rfl
  | cons event rest inductionHypothesis =>
    have here := exact start event initially holds
    constructor
    · rintro ⟨first, later⟩
      exact ⟨here.mp first, (inductionHypothesis _ (kept _ _ initially holds) first).mp later⟩
    · rintro ⟨first, later⟩
      have after := here.mpr first
      exact ⟨after, (inductionHypothesis _ (kept _ _ initially holds) after).mpr later⟩

/-- Events that change nothing where they are handled may be deleted from a run.
The kept events then meet the same states as before. -/
theorem run_erase (keep : ε → Bool) (start : σ) (events : List ε)
    (inert : Along step (fun state event => keep event = false → step state event = state)
      start events) :
    run step start events = run step start (events.filter keep) := by
  induction events generalizing start with
  | nil => rfl
  | cons event rest inductionHypothesis =>
    obtain ⟨first, later⟩ := inert
    cases kept : keep event with
    | true =>
      rw [List.filter_cons_of_pos (by simpa using kept), run_cons, run_cons]
      exact inductionHypothesis (step start event) later
    | false =>
      have same : step start event = start := first kept
      rw [List.filter_cons_of_neg (by simp [kept]), run_cons, same]
      exact inductionHypothesis start (same ▸ later)

/-- What a machine sends along a run, in order. -/
def sent (send : σ → ε → List ω) : σ → List ε → List ω
  | _, [] => []
  | state, event :: rest => send state event ++ sent send (step state event) rest

/-- What is sent along a run is sent at one of its steps. -/
theorem mem_sent (send : σ → ε → List ω) {out : ω} (start : σ) (events : List ε) :
    out ∈ sent step send start events ↔ ∃ before event after,
      events = before ++ event :: after ∧ out ∈ send (run step start before) event := by
  induction events generalizing start with
  | nil => simp [sent]
  | cons event rest inductionHypothesis =>
    rw [sent, List.mem_append, inductionHypothesis]
    constructor
    · rintro (here | ⟨before, other, after, rfl, later⟩)
      · exact ⟨[], event, rest, rfl, here⟩
      · exact ⟨event :: before, other, after, rfl, later⟩
    · rintro ⟨before, other, after, split, found⟩
      cases before with
      | nil =>
        obtain ⟨rfl, rfl⟩ := List.cons.inj split
        exact Or.inl found
      | cons head tail =>
        obtain ⟨rfl, rfl⟩ := List.cons.inj split
        exact Or.inr ⟨tail, other, after, rfl, found⟩

/-- Events that change and send nothing where they are handled may be deleted, and the run
sends the same. -/
theorem sent_erase (send : σ → ε → List ω) (keep : ε → Bool) (start : σ) (events : List ε)
    (inert : Along step
      (fun state event => keep event = false → step state event = state ∧ send state event = [])
      start events) :
    sent step send start events = sent step send start (events.filter keep) := by
  induction events generalizing start with
  | nil => rfl
  | cons event rest inductionHypothesis =>
    obtain ⟨first, later⟩ := inert
    have rest := inductionHypothesis (step start event) later
    cases kept : keep event with
    | true => rw [List.filter_cons_of_pos (by simpa using kept), sent, sent, rest]
    | false =>
      obtain ⟨same, silent⟩ := first kept
      rw [List.filter_cons_of_neg (by simp [kept]), sent, silent, List.nil_append, rest, same]

/-- A part of the state that steps on its own runs on its own. -/
theorem run_part {τ : Type*} {other : τ → ε → τ} (part : σ → τ)
    (follows : ∀ state event, part (step state event) = other (part state) event)
    (start : σ) (events : List ε) :
    part (run step start events) = run other (part start) events := by
  induction events generalizing start with
  | nil => rfl
  | cons event rest inductionHypothesis =>
    rw [run_cons, run_cons, inductionHypothesis, follows]

/-- What is sent along a run is what its part sends, where it is so at every step. -/
theorem sent_part {τ : Type*} {ω' : Type*} {other : τ → ε → τ} (send : σ → ε → List ω)
    (sends : τ → ε → List ω') (part : σ → τ) (view : ω → ω')
    (follows : ∀ state event, part (step state event) = other (part state) event)
    (same : ∀ state event, (send state event).map view = sends (part state) event)
    (start : σ) (events : List ε) :
    (sent step send start events).map view = sent other sends (part start) events := by
  induction events generalizing start with
  | nil => rfl
  | cons event rest inductionHypothesis =>
    rw [sent, sent, List.map_append, same, inductionHypothesis, follows]

/-- What is sent along a longer run is what its parts send. -/
theorem sent_append (send : σ → ε → List ω) (start : σ) (first second : List ε) :
    sent step send start (first ++ second) =
      sent step send start first ++ sent step send (run step start first) second := by
  induction first generalizing start with
  | nil => rfl
  | cons event rest inductionHypothesis =>
    rw [List.cons_append, sent, sent, run_cons, inductionHypothesis, List.append_assoc]

/-- A selection of what is sent is a selection at every step. -/
theorem sent_filterMap {ω' : Type*} (send : σ → ε → List ω) (select : ω → Option ω') (start : σ)
    (events : List ε) : (sent step send start events).filterMap select =
      sent step (fun state event => (send state event).filterMap select) start events := by
  induction events generalizing start with
  | nil => rfl
  | cons event rest inductionHypothesis =>
    rw [sent, sent, List.filterMap_append, inductionHypothesis]

section Within

variable {τ : Type*} {ε' : Type*} {inner : τ → ε' → τ}

/-- A part of the state that makes a short run of its own at every step makes a run of its
own: that of all its events, in order. -/
theorem run_within (part : σ → τ) (traffic : σ → ε → List ε')
    (follows : ∀ state event,
      part (step state event) = run inner (part state) (traffic state event))
    (start : σ) (events : List ε) :
    part (run step start events) = run inner (part start) (sent step traffic start events) := by
  induction events generalizing start with
  | nil => rfl
  | cons event rest inductionHypothesis =>
    rw [run_cons, sent, run_append, inductionHypothesis, follows]

/-- What such a part sends along the run is what it sends along its own. -/
theorem sent_within (part : σ → τ) (traffic : σ → ε → List ε')
    (follows : ∀ state event,
      part (step state event) = run inner (part state) (traffic state event))
    (send : σ → ε → List ω) (sends : τ → ε' → List ω)
    (same : ∀ state event,
      send state event = sent inner sends (part state) (traffic state event))
    (start : σ) (events : List ε) :
    sent step send start events =
      sent inner sends (part start) (sent step traffic start events) := by
  induction events generalizing start with
  | nil => rfl
  | cons event rest inductionHypothesis =>
    rw [sent, sent, sent_append, same, inductionHypothesis, follows]

/-- A condition on the run of such a part is one on its events at every step. -/
theorem along_within (part : σ → τ) (traffic : σ → ε → List ε')
    (follows : ∀ state event,
      part (step state event) = run inner (part state) (traffic state event))
    (ok : τ → ε' → Prop) (start : σ) (events : List ε) :
    Along inner ok (part start) (sent step traffic start events) ↔
      Along step (fun state event => Along inner ok (part state) (traffic state event))
        start events := by
  induction events generalizing start with
  | nil => exact Iff.rfl
  | cons event rest inductionHypothesis =>
    rw [sent, along_append, ← follows, inductionHypothesis]
    rfl

end Within

end OptionChain.Runs
