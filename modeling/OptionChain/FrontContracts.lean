import Mathlib.Data.List.Find
import Mathlib.Data.Prod.Lex
import Mathlib.Order.SuccPred.Basic

/-!
# Front contracts

The front contract at a moment is the one that trades first. Two rules name it by its
last day. A calendar lists the last days and takes the first that is not over. A daily
roll needs no list: every day has its contract, which is replaced by the next day's at
a fixed time of the day.

Both rules only ever move forward. So between two moments the front contract is the
same exactly if no roll lies between them.
-/

namespace OptionChain.FrontContracts

section Calendar

variable {D : Type} [LinearOrder D]

/-- The first listed day that is not over; today where the list has run out. -/
def firstListed (days : List D) (today : D) : D :=
  (days.find? (fun day => decide (today ≤ day))).getD today

/-- No listed day ends between the two days, and a list that had run out is not relied
on for a second day. -/
def CalendarKept (days : List D) (entered exited : D) : Prop :=
  (∀ day ∈ days, entered ≤ day → exited ≤ day) ∧ ((∃ day ∈ days, entered ≤ day) ∨ entered = exited)

instance (days : List D) (entered exited : D) : Decidable (CalendarKept days entered exited) :=
  inferInstanceAs (Decidable (_ ∧ _))

theorem le_firstListed (days : List D) (today : D) : today ≤ firstListed days today := by
  unfold firstListed
  cases found : days.find? (fun day => decide (today ≤ day)) with
  | none => exact le_rfl
  | some day => simpa using List.find?_some found

/-- In an ascending list the first day that is not over is the earliest such day. -/
theorem firstListed_le {days : List D} (sorted : days.Pairwise (· < ·)) {today day : D}
    (listed : day ∈ days) (notOver : today ≤ day) : firstListed days today ≤ day := by
  induction days with
  | nil => simp at listed
  | cons first rest inductionHypothesis =>
    obtain ⟨below, restSorted⟩ := List.pairwise_cons.mp sorted
    by_cases here : today ≤ first
    · have front : firstListed (first :: rest) today = first := by simp [firstListed, here]
      rw [front]
      rcases List.mem_cons.mp listed with same | later
      · exact same.symm.le
      · exact (below day later).le
    · have front : firstListed (first :: rest) today = firstListed rest today := by
        simp [firstListed, here]
      rw [front]
      rcases List.mem_cons.mp listed with same | later
      · exact absurd (same ▸ notOver) here
      · exact inductionHypothesis restSorted later

theorem firstListed_eq_iff {days : List D} (sorted : days.Pairwise (· < ·)) {entered exited : D}
    (order : entered ≤ exited) :
    firstListed days exited = firstListed days entered ↔ CalendarKept days entered exited := by
  constructor
  · intro same
    have reach : exited ≤ firstListed days entered := same ▸ le_firstListed days exited
    refine ⟨?_, ?_⟩
    · intro day listed notOver
      exact reach.trans (firstListed_le sorted listed notOver)
    · by_cases some : ∃ day ∈ days, entered ≤ day
      · exact Or.inl some
      · right
        have out : firstListed days entered = entered := by
          have none : days.find? (fun day => decide (entered ≤ day)) = none := by
            simpa using some
          simp [firstListed, none]
        exact le_antisymm order (out ▸ reach)
  · rintro ⟨kept, listed | same⟩
    · have agree : days.find? (fun day => decide (exited ≤ day)) =
          days.find? (fun day => decide (entered ≤ day)) := by
        apply List.find?_congr
        intro day member
        simp only [decide_eq_decide]
        exact ⟨order.trans, kept day member⟩
      obtain ⟨day, member, notOver⟩ := listed
      have found : (days.find? (fun day => decide (entered ≤ day))).isSome := by
        rw [List.find?_isSome]
        exact ⟨day, member, by simpa using notOver⟩
      obtain ⟨front, chosen⟩ := Option.isSome_iff_exists.mp found
      simp [firstListed, agree, chosen]
    · rw [same]

end Calendar

section Daily

variable {D C : Type} [LinearOrder D] [SuccOrder D] [LinearOrder C] (cutoff : C)

/-- Today's contract before the cutoff, tomorrow's from the cutoff on. -/
def daily (moment : D ×ₗ C) : D :=
  if cutoff ≤ (ofLex moment).2 then Order.succ (ofLex moment).1 else (ofLex moment).1

/-- No cutoff lies after the first moment and up to the second. -/
def DailyKept (entered exited : D ×ₗ C) : Prop :=
  ∀ day : D, entered < toLex (day, cutoff) → exited < toLex (day, cutoff)

theorem daily_late {today : D} {clock : C} (late : cutoff ≤ clock) :
    daily cutoff (toLex (today, clock)) = Order.succ today :=
  if_pos late

theorem daily_early {today : D} {clock : C} (early : ¬ cutoff ≤ clock) :
    daily cutoff (toLex (today, clock)) = today :=
  if_neg early

variable [NoMaxOrder D]

/-- The daily contract is the first whose cutoff is still to come. -/
theorem daily_le_iff (moment : D ×ₗ C) (day : D) :
    daily cutoff moment ≤ day ↔ moment < toLex (day, cutoff) := by
  obtain ⟨today, clock⟩ := moment
  change daily cutoff (toLex (today, clock)) ≤ day ↔ toLex (today, clock) < toLex (day, cutoff)
  rw [Prod.Lex.toLex_lt_toLex]
  by_cases late : cutoff ≤ clock
  · rw [daily_late cutoff late, Order.succ_le_iff]
    constructor
    · exact Or.inl
    · rintro (earlier | ⟨-, before⟩)
      · exact earlier
      · exact absurd before (not_lt.mpr late)
  · rw [daily_early cutoff late, le_iff_lt_or_eq]
    simp only [and_iff_left (not_le.mp late)]

theorem daily_eq_iff {entered exited : D ×ₗ C} (order : entered ≤ exited) :
    daily cutoff exited = daily cutoff entered ↔ DailyKept cutoff entered exited := by
  constructor
  · intro same day ahead
    rw [← daily_le_iff] at ahead ⊢
    exact same ▸ ahead
  · intro kept
    apply eq_of_forall_ge_iff
    intro day
    rw [daily_le_iff, daily_le_iff]
    exact ⟨order.trans_lt, kept day⟩

end Daily

end OptionChain.FrontContracts
