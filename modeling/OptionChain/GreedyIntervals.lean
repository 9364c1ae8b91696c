import Mathlib.Order.Bounds.Basic

/-!
# Taking intervals one after the other

Jobs come in the order of their starts. A job that starts after the last taken one has
finished is attempted, and an attempt that succeeds says when it finishes. What is taken
never overlaps, and a job that could be done and was not taken starts while a taken one
runs.
-/

namespace OptionChain.GreedyIntervals

universe u v w
variable {α : Type u} {β : Type v} {κ : Type w} [LinearOrder κ]
  (start : α → κ) (finish : β → κ) (attempt : α → Option β)

/-- When the last taken job finishes, and what was taken so far. -/
structure Taken (α : Type u) (β : Type v) (κ : Type w) where
  busyUntil : Option κ
  results : List (α × β)

/-- The job starts before the last taken one has finished, or as it does. -/
def Blocked (taken : Taken α β κ) (a : α) : Prop := ∃ finished ∈ taken.busyUntil, start a ≤ finished

instance (taken : Taken α β κ) (a : α) : Decidable (Blocked start taken a) :=
  inferInstanceAs (Decidable (∃ finished ∈ taken.busyUntil, start a ≤ finished))

/-- One job. -/
def consider (taken : Taken α β κ) (a : α) : Taken α β κ :=
  if Blocked start taken a then taken
  else
    match attempt a with
    | none => taken
    | some b => ⟨some (finish b), taken.results ++ [(a, b)]⟩

/-- All jobs in their order. -/
def takeAll (jobs : List α) : Taken α β κ := jobs.foldl (consider start finish attempt) ⟨none, []⟩

/-- What was taken of the jobs considered so far. -/
structure Greedy (jobs : List α) (taken : Taken α β κ) : Prop where
  attempted : ∀ result ∈ taken.results, result.1 ∈ jobs ∧ attempt result.1 = some result.2
  apart : taken.results.Pairwise (fun earlier later => finish earlier.2 < start later.1)
  last : ∀ finished ∈ taken.busyUntil, ∃ result ∈ taken.results, finish result.2 = finished
  latest : ∀ result ∈ taken.results, ∃ finished ∈ taken.busyUntil, finish result.2 ≤ finished
  complete : ∀ a ∈ jobs, (attempt a).isSome = true →
    (∃ result ∈ taken.results, result.1 = a) ∨
      ∃ result ∈ taken.results, start result.1 ≤ start a ∧ start a ≤ finish result.2

section Steps

variable {start} {finish} {attempt} {jobs : List α} {taken : Taken α β κ} {a : α}

theorem greedy_nil : Greedy start finish attempt [] ⟨none, []⟩ where
  attempted := by simp
  apart := List.Pairwise.nil
  last := by simp
  latest := by simp
  complete := by simp

/-- A job that is not taken, because it is blocked or cannot be done, keeps the rest. -/
theorem Greedy.skip (greedy : Greedy start finish attempt jobs taken)
    (covered : (attempt a).isSome = true →
      ∃ result ∈ taken.results, start result.1 ≤ start a ∧ start a ≤ finish result.2) :
    Greedy start finish attempt (jobs ++ [a]) taken where
  attempted result found :=
    ⟨List.mem_append_left _ (greedy.attempted result found).1, (greedy.attempted result found).2⟩
  apart := greedy.apart
  last := greedy.last
  latest := greedy.latest
  complete other placed done := by
    rcases List.mem_append.mp placed with old | new
    · exact greedy.complete other old done
    · rw [List.mem_singleton.mp new] at done ⊢
      exact .inr (covered done)

/-- A job that is taken starts after all that were taken before it have finished. -/
theorem Greedy.take (greedy : Greedy start finish attempt jobs taken) {b : β}
    (done : attempt a = some b) (lasting : start a ≤ finish b)
    (free : ¬Blocked start taken a) :
    Greedy start finish attempt (jobs ++ [a]) ⟨some (finish b), taken.results ++ [(a, b)]⟩ := by
  have before : ∀ result ∈ taken.results, finish result.2 < start a := by
    intro result found
    obtain ⟨finished, busy, within⟩ := greedy.latest result found
    refine lt_of_le_of_lt within (not_le.mp ?_)
    intro early
    exact free ⟨finished, busy, early⟩
  constructor
  · intro result found
    rcases List.mem_append.mp found with old | new
    · exact ⟨List.mem_append_left _ (greedy.attempted result old).1,
        (greedy.attempted result old).2⟩
    · rw [List.mem_singleton.mp new]
      exact ⟨List.mem_append_right _ (List.mem_singleton_self a), done⟩
  · rw [List.pairwise_append]
    refine ⟨greedy.apart, List.pairwise_singleton _ _, ?_⟩
    intro result found new isNew
    rw [List.mem_singleton.mp isNew]
    exact before result found
  · rintro finished ⟨⟩
    exact ⟨(a, b), List.mem_append_right _ (List.mem_singleton_self _), rfl⟩
  · intro result found
    refine ⟨finish b, rfl, ?_⟩
    rcases List.mem_append.mp found with old | new
    · exact le_of_lt (lt_of_lt_of_le (before result old) lasting)
    · rw [List.mem_singleton.mp new]
  · intro other placed can
    rcases List.mem_append.mp placed with old | new
    · rcases greedy.complete other old can with ⟨result, found, same⟩ | ⟨result, found, running⟩
      · exact .inl ⟨result, List.mem_append_left _ found, same⟩
      · exact .inr ⟨result, List.mem_append_left _ found, running⟩
    · exact .inl ⟨(a, b), List.mem_append_right _ (List.mem_singleton_self _),
        (List.mem_singleton.mp new).symm⟩

/-- One job, no earlier than those before it. -/
theorem Greedy.step (greedy : Greedy start finish attempt jobs taken)
    (lasting : ∀ b, attempt a = some b → start a ≤ finish b)
    (later : ∀ earlier ∈ jobs, start earlier ≤ start a) :
    Greedy start finish attempt (jobs ++ [a]) (consider start finish attempt taken a) := by
  unfold consider
  by_cases blocked : Blocked start taken a
  · rw [if_pos blocked]
    apply greedy.skip
    intro _
    obtain ⟨finished, busy, early⟩ := blocked
    obtain ⟨result, found, rfl⟩ := greedy.last finished busy
    exact ⟨result, found, later _ (greedy.attempted result found).1, early⟩
  · rw [if_neg blocked]
    cases done : attempt a with
    | none =>
      apply greedy.skip
      intro can
      rw [done] at can
      cases can
    | some b => exact greedy.take done (lasting b done) blocked

end Steps

/-- Jobs in the order of their starts, none of which finishes before it starts, are taken so:
induction on the jobs still to come. -/
theorem takeAll_greedy {jobs : List α} (sorted : jobs.Pairwise (fun a b => start a ≤ start b))
    (lasting : ∀ a b, attempt a = some b → start a ≤ finish b) :
    Greedy start finish attempt jobs (takeAll start finish attempt jobs) := by
  suffices onward : ∀ (rest done : List α) (taken : Taken α β κ),
      (done ++ rest).Pairwise (fun a b => start a ≤ start b) →
      Greedy start finish attempt done taken →
      Greedy start finish attempt (done ++ rest)
        (rest.foldl (consider start finish attempt) taken) from
    onward jobs [] ⟨none, []⟩ sorted greedy_nil
  intro rest
  induction rest with
  | nil =>
    intro done taken _ greedy
    rw [List.append_nil]
    exact greedy
  | cons a rest inductionHypothesis =>
    intro done taken ordered greedy
    have later : ∀ earlier ∈ done, start earlier ≤ start a := by
      intro earlier found
      exact (List.pairwise_append.mp ordered).2.2 earlier found a List.mem_cons_self
    have onward := inductionHypothesis (done ++ [a]) (consider start finish attempt taken a)
    rw [List.append_assoc, List.singleton_append] at onward
    exact onward ordered (greedy.step (lasting a) later)

end OptionChain.GreedyIntervals
