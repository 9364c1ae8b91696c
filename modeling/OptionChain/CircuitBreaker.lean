import Mathlib.Algebra.Order.Ring.Rat
import Mathlib.Tactic.Linarith
import OptionChain.Runs

/-!
# The circuit breaker of a client worker

The loop of `ClientExecutionWorker.run`: idle timeouts, and signals that are dropped or
handed to `_process`. After five failures in a row the circuit opens, and after the
cooldown one signal is let through as a probe.

The half-open state is not kept: both ways out of an open circuit set the failures back,
so a probe that fails counts as the first of five. `breaker_lawful_iff` says that this is
all that separates the breaker from its law.
-/

namespace OptionChain.CircuitBreaker

open Runs

/-- `_CIRCUIT_OPEN_AFTER_FAILURES`. -/
def openAfterFailures : Nat := 5

/-- `_CIRCUIT_COOLDOWN_SECONDS`. -/
def cooldownSeconds : Rat := 60

/-- The counters and the circuit of `ClientExecutionWorker`. -/
structure Worker where
  dropped : Nat := 0
  totalFailures : Nat := 0
  consecutiveFailures : Nat := 0
  circuitOpen : Bool := false
  circuitOpenedAt : Rat := 0
deriving DecidableEq

namespace Worker

/-- `_maybe_reset_circuit`. -/
def maybeResetCircuit (worker : Worker) (now : Rat) : Worker :=
  if worker.circuitOpen = true ∧ cooldownSeconds ≤ now - worker.circuitOpenedAt then
    { worker with circuitOpen := false, consecutiveFailures := 0 }
  else worker

/-- `_try_half_open`. -/
def tryHalfOpen (worker : Worker) (now : Rat) : Worker × Bool :=
  if cooldownSeconds ≤ now - worker.circuitOpenedAt then
    ({ worker with circuitOpen := false, consecutiveFailures := 0 }, true)
  else (worker, false)

/-- The guard before a signal: the worker behind it, and whether the signal is attempted. -/
def guard (worker : Worker) (now : Rat) : Worker × Bool :=
  if worker.circuitOpen then
    let tried := worker.tryHalfOpen now
    if tried.2 then tried
    else ({ tried.1 with dropped := tried.1.dropped + 1 }, false)
  else (worker, true)

/-- What `run` does with the outcome of `_process`. The clock is read when it has raised. -/
def settle (worker : Worker) (raises : Bool) (later : Rat) : Worker :=
  if raises then
    let failed := { worker with
      consecutiveFailures := worker.consecutiveFailures + 1
      totalFailures := worker.totalFailures + 1 }
    if openAfterFailures ≤ failed.consecutiveFailures then
      { failed with circuitOpen := true, circuitOpenedAt := later }
    else failed
  else { worker with consecutiveFailures := 0, circuitOpen := false }

end Worker

/-- A round of the loop: an idle timeout, or a signal with the outcome that `_process`
has if it is called. -/
inductive Event where
  | idle (now : Rat)
  | signal (now : Rat) (raises : Bool) (later : Rat)
deriving DecidableEq

/-- A round of `run`. -/
def Worker.round (worker : Worker) : Event → Worker
  | .idle now => worker.maybeResetCircuit now
  | .signal now raises later =>
      let guarded := worker.guard now
      if guarded.2 then guarded.1.settle raises later else guarded.1

/-- The worker with its history: the attempts that failed in a row, and whether the circuit
has opened without an attempt since. -/
structure Watched where
  worker : Worker := {}
  failed : Nat := 0
  probing : Bool := false
deriving DecidableEq

/-- Whether a round attempts a signal. -/
def attempts (worker : Worker) : Event → Bool
  | .idle _ => false
  | .signal now _ _ => (worker.guard now).2

def step (watched : Watched) (event : Event) : Watched :=
  let worker := watched.worker.round event
  match event, attempts watched.worker event with
  | .signal _ true _, true => ⟨worker, watched.failed + 1, worker.circuitOpen⟩
  | .signal _ false _, true => ⟨worker, 0, false⟩
  | _, _ => { watched with worker := worker }

/-- The law of the breaker for a signal: before the end of the cooldown an open circuit
drops it, afterwards it is the probe; a probe that fails opens the circuit for a fresh
cooldown; any other failure opens it exactly as the fifth in a row; a success closes it. -/
structure LawfulSignal (watched : Watched) (now : Rat) (raises : Bool) (later : Rat)
    (attempted : Bool) (after : Worker) : Prop where
  drops : watched.worker.circuitOpen = true →
    now - watched.worker.circuitOpenedAt < cooldownSeconds → attempted = false
  probes : watched.worker.circuitOpen = true →
    cooldownSeconds ≤ now - watched.worker.circuitOpenedAt → attempted = true
  reopens : watched.probing = true → attempted = true → raises = true →
    after.circuitOpen = true ∧ after.circuitOpenedAt = later
  opens : watched.probing = false → attempted = true → raises = true →
    (after.circuitOpen = true ↔ openAfterFailures ≤ watched.failed + 1) ∧
      (after.circuitOpen = true → after.circuitOpenedAt = later)
  closes : attempted = true → raises = false → after.circuitOpen = false

/-- The law of one round. An idle timeout leaves an open circuit until the cooldown is over,
and opens none. -/
def Lawful (watched : Watched) (event : Event) : Prop :=
  match event with
  | .idle now =>
      (watched.worker.circuitOpen = true →
        now - watched.worker.circuitOpenedAt < cooldownSeconds →
          (step watched event).worker = watched.worker) ∧
      (watched.worker.circuitOpen = false → (step watched event).worker = watched.worker)
  | .signal now raises later =>
      LawfulSignal watched now raises later (attempts watched.worker event)
        (step watched event).worker

/-- The round is no probe that fails. -/
def ProbeSucceeds (watched : Watched) (event : Event) : Prop :=
  match event with
  | .idle _ => True
  | .signal _ raises _ =>
      ¬(watched.probing = true ∧ attempts watched.worker event = true ∧ raises = true)

/-! ## One round -/

section Rounds

variable {worker : Worker} {now later : Rat} {raises : Bool}

/-- A worker whose circuit has let a signal through. -/
def released (worker : Worker) : Worker :=
  if worker.circuitOpen then { worker with circuitOpen := false, consecutiveFailures := 0 }
  else worker

theorem released_closed (worker : Worker) : (released worker).circuitOpen = false := by
  rw [released]
  cases held : worker.circuitOpen with
  | true => rfl
  | false => exact held

/-- The guard drops a signal during the cooldown of an open circuit, and only then. -/
theorem guard_drops (held : worker.circuitOpen = true)
    (early : now - worker.circuitOpenedAt < cooldownSeconds) :
    worker.guard now = ({ worker with dropped := worker.dropped + 1 }, false) := by
  have waiting : worker.tryHalfOpen now = (worker, false) := if_neg (not_le.mpr early)
  simp only [Worker.guard, held, waiting, if_true, Bool.false_eq_true, if_false]

theorem guard_passes
    (free : worker.circuitOpen = true → cooldownSeconds ≤ now - worker.circuitOpenedAt) :
    worker.guard now = (released worker, true) := by
  rw [Worker.guard, released]
  cases held : worker.circuitOpen with
  | true =>
    have tried : worker.tryHalfOpen now =
        ({ worker with circuitOpen := false, consecutiveFailures := 0 }, true) :=
      if_pos (free held)
    simp only [tried, if_true]
  | false => rfl

theorem guard_attempts_iff : (worker.guard now).2 = true ↔
    (worker.circuitOpen = true → cooldownSeconds ≤ now - worker.circuitOpenedAt) := by
  constructor
  · intro attempted held
    by_contra early
    rw [guard_drops held (not_le.mp early)] at attempted
    cases attempted
  · intro free
    rw [guard_passes free]

/-- A failure opens the circuit as the fifth of the counter. -/
theorem settle_raised (closed : worker.circuitOpen = false) (later : Rat) :
    (worker.settle true later).consecutiveFailures = worker.consecutiveFailures + 1 ∧
      ((worker.settle true later).circuitOpen = true ↔
        openAfterFailures ≤ worker.consecutiveFailures + 1) ∧
      ((worker.settle true later).circuitOpen = true →
        (worker.settle true later).circuitOpenedAt = later) := by
  simp only [Worker.settle, if_true]
  by_cases opens : openAfterFailures ≤ worker.consecutiveFailures + 1
  · simp [opens]
  · simp [opens, closed]

end Rounds

/-! ## The history of the counter -/

/-- Until the circuit opens the counter is that of the attempts that failed in a row. A
circuit that the cooldown has closed has set the counter back. -/
structure Tracked (watched : Watched) : Prop where
  counts : watched.probing = false → watched.worker.circuitOpen = false ∧
    watched.worker.consecutiveFailures = watched.failed
  forgets : watched.probing = true → watched.worker.circuitOpen = false →
    watched.worker.consecutiveFailures = 0

section Steps

variable {watched : Watched} {now : Rat}

/-- What lets a signal through starts the counter anew, where the circuit has opened. -/
theorem released_forgets (tracked : Tracked watched) (probing : watched.probing = true) :
    (released watched.worker).consecutiveFailures = 0 := by
  rw [released]
  cases held : watched.worker.circuitOpen with
  | true => rfl
  | false => exact tracked.forgets probing held

theorem released_counts (tracked : Tracked watched) (steady : watched.probing = false) :
    released watched.worker = watched.worker := by
  rw [released, (tracked.counts steady).1]
  rfl

/-- A signal that is attempted. -/
theorem step_attempted {now : Rat} {raises : Bool} {later : Rat}
    (free : watched.worker.circuitOpen = true →
      cooldownSeconds ≤ now - watched.worker.circuitOpenedAt) :
    (step watched (.signal now raises later)).worker =
      (released watched.worker).settle raises later := by
  have attempted : attempts watched.worker (.signal now raises later) = true :=
    guard_attempts_iff.mpr free
  cases raises <;> simp only [step, attempted, Worker.round, guard_passes free, if_true]

/-- A signal that is dropped. -/
theorem step_dropped {now : Rat} {raises : Bool} {later : Rat}
    (held : watched.worker.circuitOpen = true)
    (early : now - watched.worker.circuitOpenedAt < cooldownSeconds) :
    step watched (.signal now raises later) =
      { watched with worker := { watched.worker with dropped := watched.worker.dropped + 1 } } := by
  have dropped : attempts watched.worker (.signal now raises later) = false := by
    simp only [attempts, guard_drops held early]
  cases raises <;> simp [step, dropped, Worker.round, guard_drops held early]

theorem idle_lawful (watched : Watched) (now : Rat) : Lawful watched (.idle now) := by
  constructor
  · intro held early
    exact if_neg (fun both => not_le.mpr early both.2)
  · intro closed
    exact if_neg (fun both => by simp [closed] at both)

/-- The law of a signal holds exactly where it is no probe that fails. -/
theorem signal_lawful_iff (tracked : Tracked watched) (now : Rat) (raises : Bool) (later : Rat) :
    Lawful watched (.signal now raises later) ↔
      ProbeSucceeds watched (.signal now raises later) := by
  constructor
  · rintro lawful ⟨probing, attempted, rfl⟩
    have reopened := (lawful.reopens probing attempted rfl).1
    rw [step_attempted (guard_attempts_iff.mp attempted),
      (settle_raised (released_closed watched.worker) later).2.1,
      released_forgets tracked probing] at reopened
    exact absurd reopened (by decide)
  · intro succeeds
    constructor
    case drops =>
      intro held early
      simp only [attempts, guard_drops held early]
    case probes => exact fun held elapsed => guard_attempts_iff.mpr fun _ => elapsed
    case reopens =>
      intro probing attempted raised
      exact absurd ⟨probing, attempted, raised⟩ succeeds
    case opens =>
      rintro steady attempted rfl
      obtain ⟨-, opens, opened⟩ := settle_raised (released_closed watched.worker) later
      rw [step_attempted (guard_attempts_iff.mp attempted)]
      rw [released_counts tracked steady, (tracked.counts steady).2] at opens
      refine ⟨?_, opened⟩
      rw [released_counts tracked steady]
      exact opens
    case closes =>
      rintro attempted rfl
      rw [step_attempted (guard_attempts_iff.mp attempted)]
      rfl

/-- An idle round keeps the counter tracked: only a cooldown sets it back. -/
theorem idle_tracked (now : Rat) (tracked : Tracked watched) :
    Tracked (step watched (.idle now)) := by
  by_cases elapsed : watched.worker.circuitOpen = true ∧
      cooldownSeconds ≤ now - watched.worker.circuitOpenedAt
  · have reset : (step watched (.idle now)).worker =
        { watched.worker with circuitOpen := false, consecutiveFailures := 0 } := if_pos elapsed
    have probing : watched.probing = true := by
      rw [← Bool.not_eq_false]
      intro steady
      simp [(tracked.counts steady).1] at elapsed
    constructor
    · intro steady
      exact absurd (probing.symm.trans steady) (by decide)
    · intro _ _
      rw [reset]
  · have still : step watched (.idle now) = watched := by
      change (⟨watched.worker.maybeResetCircuit now, watched.failed, watched.probing⟩ : Watched) =
        watched
      rw [Worker.maybeResetCircuit, if_neg elapsed]
    rwa [still]

/-- A signal that succeeds starts the counter again. -/
theorem success_tracked (later : Rat)
    (free : watched.worker.circuitOpen = true →
      cooldownSeconds ≤ now - watched.worker.circuitOpenedAt) :
    Tracked (step watched (.signal now false later)) := by
  have attempted := guard_attempts_iff.mpr free
  have settled := @step_attempted watched now false later free
  constructor
  · intro _
    rw [settled]
    have fresh : (step watched (.signal now false later)).failed = 0 := by
      simp only [step, attempts, attempted]
    exact ⟨rfl, fresh.symm⟩
  · intro probing
    have steady : (step watched (.signal now false later)).probing = false := by
      simp only [step, attempts, attempted]
    exact absurd (probing.symm.trans steady) (by decide)

/-- A signal that fails outside of a probe is one more failure in a row. -/
theorem failure_tracked (later : Rat) (tracked : Tracked watched)
    (steady : watched.probing = false)
    (free : watched.worker.circuitOpen = true →
      cooldownSeconds ≤ now - watched.worker.circuitOpenedAt) :
    Tracked (step watched (.signal now true later)) := by
  have attempted := guard_attempts_iff.mpr free
  have settled := @step_attempted watched now true later free
  have probing : (step watched (.signal now true later)).probing =
      (step watched (.signal now true later)).worker.circuitOpen := by
    simp only [step, attempts, attempted]
  have failed : (step watched (.signal now true later)).failed = watched.failed + 1 := by
    simp only [step, attempts, attempted]
  constructor
  · intro closed
    refine ⟨probing.symm.trans closed, ?_⟩
    rw [settled, (settle_raised (released_closed watched.worker) later).1,
      released_counts tracked steady, failed, (tracked.counts steady).2]
  · intro opened closed
    rw [probing, closed] at opened
    cases opened

/-- A lawful round keeps the counter tracked. -/
theorem step_tracked (event : Event) (tracked : Tracked watched) (lawful : Lawful watched event) :
    Tracked (step watched event) := by
  cases event with
  | idle now => exact idle_tracked now tracked
  | signal now raises later =>
    by_cases free : watched.worker.circuitOpen = true →
        cooldownSeconds ≤ now - watched.worker.circuitOpenedAt
    · cases raises with
      | false => exact success_tracked later free
      | true =>
        have steady : watched.probing = false := by
          rw [← Bool.not_eq_true]
          exact fun probe => (signal_lawful_iff tracked now true later).mp lawful
            ⟨probe, guard_attempts_iff.mpr free, rfl⟩
        exact failure_tracked later tracked steady free
    · simp only [not_forall, not_le] at free
      obtain ⟨held, early⟩ := free
      rw [step_dropped held early]
      exact ⟨tracked.counts, tracked.forgets⟩

end Steps

/-- In every run of a worker the breaker keeps its law at every round exactly when no
attempt fails that is the first one after an opening of the circuit. -/
theorem breaker_lawful_iff (events : List Event) :
    Along step Lawful {} events ↔ Along step ProbeSucceeds {} events := by
  have initially : Tracked {} := ⟨fun _ => ⟨rfl, rfl⟩, fun _ _ => rfl⟩
  refine along_agree step (fun watched event tracked lawful => step_tracked event tracked lawful)
    ?_ {} events initially
  intro watched event tracked
  cases event with
  | idle now => exact iff_of_true (idle_lawful watched now) trivial
  | signal now raises later => exact signal_lawful_iff tracked now raises later

/-- Five failures, and a probe after the cooldown that fails. -/
def failingProbe : List Event :=
  [.signal 0 true 1, .signal 2 true 3, .signal 4 true 5, .signal 6 true 7, .signal 8 true 9,
    .signal 70 true 71]

/-- The fifth failure opens the circuit; the failing probe leaves it closed, and the next
signal is attempted at once. -/
theorem probe_leaves_closed :
    (run step {} (failingProbe.take 5)).worker.circuitOpen = true ∧
      attempts (run step {} (failingProbe.take 5)).worker (.signal 70 true 71) = true ∧
      (run step {} failingProbe).worker.circuitOpen = false ∧
      attempts (run step {} failingProbe).worker (.signal 72 true 73) = true ∧
      ¬Along step Lawful {} failingProbe := by
  refine ⟨by decide +kernel, by decide +kernel, by decide +kernel, by decide +kernel, ?_⟩
  intro along
  have reopened := along.2.2.2.2.2.1.reopens (by decide +kernel) (by decide +kernel) rfl
  exact absurd reopened.1 (by decide +kernel)

end OptionChain.CircuitBreaker
