import Mathlib.Order.Bounds.Basic
import Mathlib.Data.List.Induction

/-!
# Two-stage first crossings in a sequence

A crossing of a predicate after a position is any later position whose element
satisfies it, and the first crossing is the least one. A two-stage watch waits
for the first crossing of one predicate and then for the first crossing of a
second one. Whether the element that completes the first stage may complete the
second one too is a parameter.

The one-pass watch `next` looks at every element once and remembers only its
stage. `watch_exact` says that it computes the declarative history: the first
crossings as least elements, over sequences of any length.
-/

namespace OptionChain.FirstCrossing

universe u
variable {β : Type u}

/-- Positions strictly after a given one whose element satisfies the predicate. -/
def crossings (xs : List β) (after : Nat) (p : β → Bool) : Set Nat :=
  {position | after < position ∧ ∃ b, xs[position]? = some b ∧ p b = true}

/-- The first crossing after a position. -/
def First (xs : List β) (after : Nat) (p : β → Bool) (position : Nat) : Prop :=
  IsLeast (crossings xs after p) position

/-- No later element satisfies the predicate. -/
def Never (xs : List β) (after : Nat) (p : β → Bool) : Prop :=
  ∀ position, position ∉ crossings xs after p

theorem crossings_bound {xs : List β} {after : Nat} {p : β → Bool} {position : Nat}
    (crossing : position ∈ crossings xs after p) : position < xs.length := by
  obtain ⟨_, b, found, _⟩ := crossing
  exact (List.getElem?_eq_some_iff.mp found).1

/-- One more element adds at most its own position. -/
theorem mem_crossings_snoc (xs : List β) (b : β) (after : Nat) (p : β → Bool) (position : Nat) :
    position ∈ crossings (xs ++ [b]) after p ↔
      position ∈ crossings xs after p ∨
        (position = xs.length ∧ after < xs.length ∧ p b = true) := by
  simp only [crossings, Set.mem_ofPred_eq]
  rcases Nat.lt_trichotomy position xs.length with inside | same | outside
  · rw [List.getElem?_append_left inside]
    have different : position ≠ xs.length := Nat.ne_of_lt inside
    simp [different]
  · subst same
    simp
  · have beyond : (xs ++ [b])[position]? = none := by
      rw [List.getElem?_eq_none_iff, List.length_append, List.length_singleton]
      exact outside
    have before : xs[position]? = none := List.getElem?_eq_none (Nat.le_of_lt outside)
    have different : position ≠ xs.length := Nat.ne_of_gt outside
    simp [beyond, before, different]

/-- Nothing lies strictly after the last position. -/
theorem never_past_end {xs : List β} {after : Nat} (p : β → Bool) (bound : xs.length ≤ after + 1) :
    Never xs after p := by
  intro position crossing
  have inside : position < xs.length := crossings_bound crossing
  have later : after < position := crossing.1
  omega

theorem never_snoc {xs : List β} {after : Nat} {p : β → Bool} (b : β)
    (never : Never xs after p) (fails : p b = false) : Never (xs ++ [b]) after p := by
  intro position crossing
  rcases (mem_crossings_snoc xs b after p position).mp crossing with old | ⟨_, _, holds⟩
  · exact never position old
  · simp [fails] at holds

/-- A first crossing stays the first one when the sequence grows. -/
theorem first_snoc {xs : List β} {after : Nat} {p : β → Bool} {position : Nat} (b : β)
    (first : First xs after p position) : First (xs ++ [b]) after p position := by
  refine ⟨(mem_crossings_snoc xs b after p position).mpr (.inl first.1), ?_⟩
  intro other crossing
  rcases (mem_crossings_snoc xs b after p other).mp crossing with old | ⟨rfl, _, _⟩
  · exact first.2 old
  · exact Nat.le_of_lt (crossings_bound first.1)

/-- Without an earlier crossing a satisfying new element is the first one. -/
theorem first_at_end {xs : List β} {after : Nat} {p : β → Bool} (b : β)
    (never : Never xs after p) (later : after < xs.length) (holds : p b = true) :
    First (xs ++ [b]) after p xs.length := by
  refine ⟨(mem_crossings_snoc xs b after p _).mpr (.inr ⟨rfl, later, holds⟩), ?_⟩
  intro other crossing
  rcases (mem_crossings_snoc xs b after p other).mp crossing with old | ⟨rfl, _, _⟩
  · exact (never other old).elim
  · exact Nat.le_refl _

/-- First crossings are unique. -/
theorem first_unique {xs : List β} {after : Nat} {p : β → Bool} {left right : Nat}
    (first : First xs after p left) (other : First xs after p right) : left = right :=
  IsLeast.unique first other

/-- The stages of a watch, with the elements that completed them. -/
inductive Stage (β : Type u) where
  | waiting
  | crossed (first : β)
  | returned (first second : β)

/-- Look at one element. With `immediate` the element that completes the first
stage is tested for the second stage as well. -/
def next (immediate : Bool) (p q : β → Bool) : Stage β → β → Stage β
  | .waiting, b =>
      if p b then (if immediate && q b then .returned b b else .crossed b) else .waiting
  | .crossed first, b => if q b then .returned first b else .crossed first
  | .returned first second, _ => .returned first second

/-- The second stage looks strictly after this position. An immediate watch looks
from the completing element on. -/
def resumes (immediate : Bool) (position : Nat) : Nat :=
  if immediate then position - 1 else position

theorem resumes_le (immediate : Bool) (position : Nat) : resumes immediate position ≤ position := by
  cases immediate <;> simp [resumes]

theorem le_resumes (immediate : Bool) (position : Nat) :
    position ≤ resumes immediate position + 1 := by
  unfold resumes
  split <;> omega

/-- What a watch opened at a position has to say about a whole sequence. -/
inductive History (immediate : Bool) (xs : List β) (after : Nat) (p q : β → Bool) :
    Stage β → Prop
  | waiting (never : Never xs after p) : History immediate xs after p q .waiting
  | crossed (position : Nat) (b : β) (found : xs[position]? = some b)
      (first : First xs after p position) (never : Never xs (resumes immediate position) q) :
      History immediate xs after p q (.crossed b)
  | returned (position final : Nat) (b c : β) (found : xs[position]? = some b)
      (ends : xs[final]? = some c) (first : First xs after p position)
      (second : First xs (resumes immediate position) q final) :
      History immediate xs after p q (.returned b c)

theorem getElem?_snoc {xs : List β} {position : Nat} {b : β} (c : β)
    (found : xs[position]? = some b) : (xs ++ [c])[position]? = some b := by
  have inside : position < xs.length := (List.getElem?_eq_some_iff.mp found).1
  rwa [List.getElem?_append_left inside]

/-- One look carries the history over one more element. The completing element of
the first stage lies at the end, so an immediate watch needs only that element. -/
theorem history_snoc {immediate : Bool} {xs : List β} {after : Nat} {p q : β → Bool}
    {stage : Stage β} (b : β) (later : after < xs.length)
    (history : History immediate xs after p q stage) :
    History immediate (xs ++ [b]) after p q (next immediate p q stage b) := by
  cases history with
  | waiting never =>
    cases crossing : p b with
    | false =>
      simp only [next, crossing]
      exact .waiting (never_snoc b never crossing)
    | true =>
      have first := first_at_end b never later crossing
      have found : (xs ++ [b])[xs.length]? = some b := by simp
      cases immediate with
      | false =>
        simp only [next, crossing, Bool.false_and]
        exact .crossed xs.length b found first (never_past_end q (by simp [resumes]))
      | true =>
        have quiet : Never xs (xs.length - 1) q := never_past_end q (by omega)
        cases back : q b with
        | false =>
          simp only [next, crossing, back, Bool.and_false]
          exact .crossed xs.length b found first (never_snoc b quiet back)
        | true =>
          simp only [next, crossing, back, Bool.and_self]
          have same : resumes true xs.length < xs.length := by
            simp only [resumes, if_true]
            omega
          exact .returned xs.length xs.length b b found found first
            (first_at_end b quiet same back)
  | crossed position first found crossing never =>
    have resumed : resumes immediate position < xs.length :=
      Nat.lt_of_le_of_lt (resumes_le immediate position) (crossings_bound crossing.1)
    cases back : q b with
    | false =>
      simp only [next, back]
      exact .crossed position first (getElem?_snoc b found) (first_snoc b crossing)
        (never_snoc b never back)
    | true =>
      simp only [next, back]
      exact .returned position xs.length first b (getElem?_snoc b found) (by simp)
        (first_snoc b crossing) (first_at_end b never resumed back)
  | returned position final first second found ends crossing back =>
    exact .returned position final first second (getElem?_snoc b found) (getElem?_snoc b ends)
      (first_snoc b crossing) (first_snoc b back)

/-- A watch opened at the last position of a prefix and shown every later element
in turn has the history of the whole sequence. -/
theorem watch_exact (immediate : Bool) (p q : β → Bool) (early : List β) (after : Nat)
    (opened : early.length = after + 1) (late : List β) :
    History immediate (early ++ late) after p q (late.foldl (next immediate p q) .waiting) := by
  induction late using List.reverseRecOn with
  | nil =>
    rw [List.append_nil]
    exact .waiting (never_past_end p (by omega))
  | append_singleton late b inductionHypothesis =>
    rw [List.foldl_append, ← List.append_assoc]
    exact history_snoc b (by simp only [List.length_append]; omega) inductionHypothesis

/-- A watch remembers only elements it was shown. -/
theorem crossed_mem (immediate : Bool) (p q : β → Bool) (late : List β) {first : β}
    (crossed : late.foldl (next immediate p q) .waiting = .crossed first) : first ∈ late := by
  induction late using List.reverseRecOn generalizing first with
  | nil => cases crossed
  | append_singleton late b inductionHypothesis =>
    rw [List.foldl_append] at crossed
    cases before : late.foldl (next immediate p q) .waiting with
    | waiting =>
      have found : b = first := by
        simp only [before, List.foldl_cons, List.foldl_nil, next] at crossed
        grind
      simp [found]
    | crossed earlier =>
      have found : earlier = first := by
        simp only [before, List.foldl_cons, List.foldl_nil, next] at crossed
        grind
      exact List.mem_append_left _ (found ▸ inductionHypothesis before)
    | returned earlier second => simp [before, next] at crossed

section Decided

variable {immediate : Bool} {xs : List β} {after : Nat} {p q : β → Bool} {stage : Stage β}

/-- Without a crossing the watch still waits. -/
theorem history_never (history : History immediate xs after p q stage)
    (never : Never xs after p) : stage = .waiting := by
  cases history with
  | waiting => rfl
  | crossed position _ _ first => exact (never position first.1).elim
  | returned position _ _ _ _ _ first => exact (never position first.1).elim

/-- A first crossing without a return is the element the watch remembers. -/
theorem history_crossed (history : History immediate xs after p q stage) {position : Nat}
    (first : First xs after p position) (never : Never xs (resumes immediate position) q) :
    ∃ b, xs[position]? = some b ∧ stage = .crossed b := by
  cases history with
  | waiting quiet => exact (quiet position first.1).elim
  | crossed other b found crossing =>
    have same : other = position := first_unique crossing first
    exact ⟨b, same ▸ found, rfl⟩
  | returned other final b c found ends crossing back =>
    have same : other = position := first_unique crossing first
    exact (never final (same ▸ back.1)).elim

/-- A first crossing and the first return after it are the elements remembered. -/
theorem history_returned (history : History immediate xs after p q stage) {position final : Nat}
    (first : First xs after p position) (second : First xs (resumes immediate position) q final) :
    ∃ b c, xs[position]? = some b ∧ xs[final]? = some c ∧ stage = .returned b c := by
  cases history with
  | waiting quiet => exact (quiet position first.1).elim
  | crossed other b found crossing never =>
    have same : other = position := first_unique crossing first
    exact (never final (same ▸ second.1)).elim
  | returned other last b c found ends crossing back =>
    have same : other = position := first_unique crossing first
    subst same
    have together : last = final := first_unique back second
    exact ⟨b, c, found, together ▸ ends, rfl⟩

end Decided

section Progress

variable {immediate : Bool} {p q weak : β → Bool}

/-- What a stage leads to: nothing that has been completed is taken back. -/
inductive Progress : Stage β → Stage β → Prop
  | refl (stage : Stage β) : Progress stage stage
  | crosses (first : β) : Progress .waiting (.crossed first)
  | returns (first second : β) : Progress .waiting (.returned first second)
  | completes (first second : β) : Progress (.crossed first) (.returned first second)

theorem progress_next (stage : Stage β) (b : β) : Progress stage (next immediate p q stage b) := by
  cases stage with
  | waiting =>
    rw [next]
    split
    · split
      · exact .returns b b
      · exact .crosses b
    · exact .refl _
  | crossed first =>
    rw [next]
    split
    · exact .completes first b
    · exact .refl _
  | returned first second => exact .refl _

theorem Progress.trans {one two three : Stage β} (early : Progress one two)
    (late : Progress two three) : Progress one three := by
  cases early with
  | refl => exact late
  | crosses first =>
    cases late with
    | refl => exact .crosses first
    | completes _ second => exact .returns first second
  | returns first second => cases late; exact .returns first second
  | completes first second => cases late; exact .completes first second

theorem progress_fold (stage : Stage β) (late : List β) :
    Progress stage (late.foldl (next immediate p q) stage) := by
  induction late generalizing stage with
  | nil => exact .refl stage
  | cons b rest inductionHypothesis =>
    exact (progress_next stage b).trans (inductionHypothesis _)

/-- Two watches of which the second returns no later. -/
inductive Sooner (before : β → β → Prop) : Stage β → Stage β → Prop
  | waiting : Sooner before .waiting .waiting
  | crossed (first : β) : Sooner before (.crossed first) (.crossed first)
  | ahead (first second : β) : Sooner before (.crossed first) (.returned first second)
  | together (first second : β) : Sooner before (.returned first second) (.returned first second)
  | apart (first second early : β) (earlier : before early second) :
      Sooner before (.returned first second) (.returned first early)

/-- A watch remembers only elements it was shown, up to the last. -/
theorem returned_mem (late : List β) {first second : β}
    (returned : late.foldl (next immediate p q) .waiting = .returned first second) :
    second ∈ late := by
  induction late using List.reverseRecOn generalizing first second with
  | nil => cases returned
  | append_singleton late b inductionHypothesis =>
    rw [List.foldl_append, List.foldl_cons, List.foldl_nil] at returned
    cases before : late.foldl (next immediate p q) .waiting with
    | waiting =>
      rw [before, next] at returned
      split at returned
      · split at returned
        · obtain ⟨_, rfl⟩ := Stage.returned.inj returned
          simp
        · cases returned
      · cases returned
    | crossed early =>
      rw [before, next] at returned
      split at returned
      · obtain ⟨_, rfl⟩ := Stage.returned.inj returned
        simp
      · cases returned
    | returned early other =>
      rw [before] at returned
      obtain ⟨rfl, rfl⟩ := Stage.returned.inj returned
      exact List.mem_append_left _ (inductionHypothesis before)

/-- A weaker return test crosses at the same element and returns no later. -/
theorem sooner_fold {before : β → β → Prop} (weaker : ∀ b, q b = true → weak b = true)
    {late : List β} (ordered : late.Pairwise before) :
    Sooner before (late.foldl (next false p q) .waiting)
      (late.foldl (next false p weak) .waiting) := by
  induction late using List.reverseRecOn with
  | nil => exact .waiting
  | append_singleton late b inductionHypothesis =>
    obtain ⟨earlier, -, below⟩ := List.pairwise_append.mp ordered
    have behind := inductionHypothesis earlier
    have shown := @returned_mem _ false p weak late
    simp only [List.foldl_append, List.foldl_cons, List.foldl_nil]
    generalize late.foldl (next false p q) .waiting = strict at behind
    generalize late.foldl (next false p weak) .waiting = loose at behind shown
    cases behind with
    | waiting =>
      simp only [next, Bool.false_and, Bool.false_eq_true, if_false]
      split
      · exact .crossed b
      · exact .waiting
    | crossed first =>
      simp only [next]
      cases back : q b with
      | true =>
        simp only [weaker b back, if_true]
        exact .together first b
      | false =>
        simp only [Bool.false_eq_true, if_false]
        split
        · exact .ahead first b
        · exact .crossed first
    | ahead first second =>
      simp only [next]
      split
      · exact .apart first b second (below second (shown rfl) b (List.mem_singleton_self b))
      · exact .ahead first second
    | together first second => exact .together first second
    | apart first second early order => exact .apart first second early order

end Progress

end OptionChain.FirstCrossing
