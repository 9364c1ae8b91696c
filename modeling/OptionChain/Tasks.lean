import Mathlib.Data.List.Perm.Basic
import OptionChain.Runs

/-!
# Cooperative tasks over a shared state

Handlers run to their next suspension without interference and then give the
loop to any other task: the discipline of a single-threaded event loop. A
program says what a handler does from its start to its first suspension, and
what a suspended task does once the call it waits for has answered. Events start
a handler or answer one suspended task, in any order and for any number of
tasks.

An invariant of such a system speaks of the shared state and of the suspended
tasks, but not of their order. `pool_step` and `pool_run` are the rules for it:
one obligation for a handler that starts beside some tasks, and one for a task
that is answered beside the others.
-/

namespace OptionChain.Tasks

universe u v w x
variable {σ : Type u} {η : Type v} {π : Type w} {ι : Type x}

/-- What a handler does up to its first suspension, and what a suspended task
does with the answer it waits for. No remaining task means that it has ended. -/
structure Program (σ : Type u) (η : Type v) (π : Type w) (ι : Type x) where
  start : σ → η → σ × Option π
  resume : σ → π → ι → σ × Option π

/-- The shared state and the suspended tasks, oldest first. -/
structure System (σ : Type u) (π : Type w) where
  shared : σ
  tasks : List π
deriving DecidableEq

inductive Event (η : Type v) (ι : Type x) where
  | start (handler : η)
  | resume (index : Nat) (answer : ι)

/-- One handler start, or one answer to the task at an index. An index without a
task is no event of the loop and changes nothing. -/
def step (program : Program σ η π ι) (system : System σ π) : Event η ι → System σ π
  | .start handler =>
      let started := program.start system.shared handler
      ⟨started.1, system.tasks ++ started.2.toList⟩
  | .resume index answer =>
      match system.tasks[index]? with
      | none => system
      | some task =>
          let resumed := program.resume system.shared task answer
          ⟨resumed.1, system.tasks.take index ++ resumed.2.toList ++
            system.tasks.drop (index + 1)⟩

/-- A condition on every start, by the tasks suspended there, and on every
answer, by the task that receives it and the others. -/
def Guarded (mayStart : σ → List π → η → Prop) (mayResume : σ → List π → π → ι → Prop)
    (system : System σ π) : Event η ι → Prop
  | .start handler => mayStart system.shared system.tasks handler
  | .resume index answer => ∀ task ∈ system.tasks[index]?,
      mayResume system.shared (system.tasks.take index ++ system.tasks.drop (index + 1))
        task answer

instance guardedDecidable (mayStart : σ → List π → η → Prop)
    (mayResume : σ → List π → π → ι → Prop)
    [∀ state tasks handler, Decidable (mayStart state tasks handler)]
    [∀ state others task answer, Decidable (mayResume state others task answer)]
    (system : System σ π) : ∀ event : Event η ι,
    Decidable (Guarded mayStart mayResume system event)
  | .start handler => inferInstanceAs (Decidable (mayStart system.shared system.tasks handler))
  | .resume index answer => inferInstanceAs (Decidable (∀ task ∈ system.tasks[index]?,
      mayResume system.shared (system.tasks.take index ++ system.tasks.drop (index + 1))
        task answer))

/-- No condition at all. -/
theorem guarded_always (system : System σ π) (event : Event η ι) :
    Guarded (fun _ _ _ => True) (fun _ _ _ _ => True) system event := by
  cases event with
  | start handler => trivial
  | resume index answer => exact fun task _ => trivial

/-- What an invariant of the shared state and the pool of tasks has to satisfy. -/
structure PoolInvariant (program : Program σ η π ι) (mayStart : σ → List π → η → Prop)
    (mayResume : σ → List π → π → ι → Prop) (invariant : σ → List π → Prop) : Prop where
  unordered : ∀ state tasks other, tasks.Perm other → invariant state tasks →
    invariant state other
  starts : ∀ state tasks handler, invariant state tasks → mayStart state tasks handler →
    invariant (program.start state handler).1 ((program.start state handler).2.toList ++ tasks)
  resumes : ∀ state others task answer, invariant state (task :: others) →
    mayResume state others task answer →
    invariant (program.resume state task answer).1
      ((program.resume state task answer).2.toList ++ others)

/-- One guarded step keeps a pool invariant. The answered task is brought to the
front of the pool, its successor is put back where it was. -/
theorem pool_step {program : Program σ η π ι} {mayStart : σ → List π → η → Prop}
    {mayResume : σ → List π → π → ι → Prop} {invariant : σ → List π → Prop}
    (kept : PoolInvariant program mayStart mayResume invariant) (system : System σ π)
    (event : Event η ι) (holds : invariant system.shared system.tasks)
    (guarded : Guarded mayStart mayResume system event) :
    invariant (step program system event).shared (step program system event).tasks := by
  obtain ⟨state, tasks⟩ := system
  cases event with
  | start handler =>
    exact kept.unordered _ _ _ List.perm_append_comm (kept.starts state tasks handler holds guarded)
  | resume index answer =>
    cases found : tasks[index]? with
    | none => simpa [step, found] using holds
    | some task =>
      have split : tasks.Perm (task :: (tasks.take index ++ tasks.drop (index + 1))) := by
        obtain ⟨inside, here⟩ := List.getElem?_eq_some_iff.mp found
        have parts : tasks = tasks.take index ++ task :: tasks.drop (index + 1) := by
          rw [← here, List.getElem_cons_drop, List.take_append_drop]
        exact (List.Perm.of_eq parts).trans List.perm_middle
      have resumed := kept.resumes state _ task answer
        (kept.unordered _ _ _ split holds) (guarded task (by simp [found]))
      have back : ((program.resume state task answer).2.toList ++
          (tasks.take index ++ tasks.drop (index + 1))).Perm
          (tasks.take index ++ (program.resume state task answer).2.toList ++
            tasks.drop (index + 1)) := by
        rw [← List.append_assoc]
        exact List.perm_append_comm.append_right _
      have final := kept.unordered _ _ _ back resumed
      simpa [step, found] using final

/-- In a run of guarded steps a pool invariant holds in every state reached. -/
theorem pool_run {program : Program σ η π ι} {mayStart : σ → List π → η → Prop}
    {mayResume : σ → List π → π → ι → Prop} {invariant : σ → List π → Prop}
    (kept : PoolInvariant program mayStart mayResume invariant) (start : System σ π)
    (events : List (Event η ι)) (initially : invariant start.shared start.tasks)
    (guarded : Runs.Along (step program) (Guarded mayStart mayResume) start events) :
    invariant (Runs.run (step program) start events).shared
      (Runs.run (step program) start events).tasks := by
  exact @Runs.along_invariant _ _ (step program) (Guarded mayStart mayResume)
    (fun system => invariant system.shared system.tasks) (pool_step kept) start events
    initially guarded

/-- An invariant that speaks of the state and of every task by itself: a segment has to
keep the one and to leave a task that satisfies the other. -/
theorem each_pool {program : Program σ η π ι} {mayStart : σ → List π → η → Prop}
    {mayResume : σ → List π → π → ι → Prop} {invariant : σ → List π → Prop}
    (holds : σ → Prop) (each : π → Prop)
    (split : ∀ state tasks, invariant state tasks ↔ holds state ∧ ∀ task ∈ tasks, each task)
    (starts : ∀ state tasks handler, holds state → mayStart state tasks handler →
      holds (program.start state handler).1 ∧
        ∀ task ∈ (program.start state handler).2, each task)
    (resumes : ∀ state others task answer, holds state → each task →
      mayResume state others task answer → holds (program.resume state task answer).1 ∧
        ∀ next ∈ (program.resume state task answer).2, each next) :
    PoolInvariant program mayStart mayResume invariant := by
  constructor
  case unordered =>
    intro state tasks other permuted kept
    rw [split] at kept ⊢
    exact ⟨kept.1, fun task member => kept.2 task (permuted.mem_iff.mpr member)⟩
  case starts =>
    intro state tasks handler kept allowed
    rw [split] at kept ⊢
    obtain ⟨after, begun⟩ := starts state tasks handler kept.1 allowed
    refine ⟨after, fun task member => ?_⟩
    rcases List.mem_append.mp member with new | older
    · exact begun task (Option.mem_toList.mp new)
    · exact kept.2 task older
  case resumes =>
    intro state others task answer kept allowed
    rw [split] at kept ⊢
    obtain ⟨after, goesOn⟩ :=
      resumes state others task answer kept.1 (kept.2 task List.mem_cons_self) allowed
    refine ⟨after, fun next member => ?_⟩
    rcases List.mem_append.mp member with new | older
    · exact goesOn next (Option.mem_toList.mp new)
    · exact kept.2 next (List.mem_cons_of_mem _ older)

/-- A pool invariant that needs no condition holds in every state of every run. -/
theorem pool_always {program : Program σ η π ι} {invariant : σ → List π → Prop}
    (kept : PoolInvariant program (fun _ _ _ => True) (fun _ _ _ _ => True) invariant)
    (start : System σ π) (events : List (Event η ι))
    (initially : invariant start.shared start.tasks) :
    invariant (Runs.run (step program) start events).shared
      (Runs.run (step program) start events).tasks :=
  pool_run kept start events initially
    (Runs.along_always _ _ _ fun event _ system => guarded_always system event)

end OptionChain.Tasks
