import OptionChain.Runs

/-!
# Bounded first-in first-out mailboxes

A mailbox takes items at one end until it is full and gives them out at the other. An
item that finds it full stays outside and is not offered again, so a mailbox loses items
and never delays the sender. A size of zero is no bound at all.

What has come out of a mailbox and what waits in it are the accepted items, in order.
They are all the items that were offered exactly if no item met a full mailbox.
-/

namespace OptionChain.Mailboxes

open Runs

universe u
variable {α : Type u} (size : Nat)

/-- A full mailbox takes no more. -/
def full (waiting : List α) : Bool := decide (0 < size) && decide (size ≤ waiting.length)

inductive Event (α : Type u) where
  | put (item : α)
  | get
deriving DecidableEq

/-- What waits after an item is offered or the oldest is taken out. -/
def step (waiting : List α) : Event α → List α
  | .put item => if full size waiting then waiting else waiting ++ [item]
  | .get => waiting.tail

/-- What is taken out. -/
def got (waiting : List α) : Event α → List α
  | .put _ => []
  | .get => waiting.head?.toList

/-- What is let in. -/
def accepted (waiting : List α) : Event α → List α
  | .put item => if full size waiting then [] else [item]
  | .get => []

/-- What stays outside. -/
def lost (waiting : List α) : Event α → List α
  | .put item => if full size waiting then [item] else []
  | .get => []

/-- What is offered. -/
def offered : Event α → List α
  | .put item => [item]
  | .get => []

/-- An item that is offered finds room. -/
def Roomy (waiting : List α) : Event α → Prop
  | .put _ => full size waiting = false
  | .get => True

instance roomyDecidable (waiting : List α) : ∀ event, Decidable (Roomy size waiting event)
  | .put _ => inferInstanceAs (Decidable (full size waiting = false))
  | .get => .isTrue trivial

variable {size} {waiting : List α}

theorem full_iff : full size waiting = true ↔ 0 < size ∧ size ≤ waiting.length := by
  simp [full]

/-- A step keeps the order: what was taken out and what waits are what waited and what came. -/
theorem step_conserves (waiting : List α) (event : Event α) :
    got waiting event ++ step size waiting event = waiting ++ accepted size waiting event := by
  cases event with
  | put item =>
    simp only [got, step, accepted, List.nil_append]
    split <;> simp
  | get => cases waiting <;> simp [got, step, accepted]

/-- What has come out and what waits are the accepted items, in order. -/
theorem run_conserves (waiting : List α) (events : List (Event α)) :
    sent (step size) got waiting events ++ run (step size) waiting events =
      waiting ++ sent (step size) (accepted size) waiting events := by
  induction events generalizing waiting with
  | nil => simp [sent]
  | cons event rest inductionHypothesis =>
    rw [sent, sent, run_cons, List.append_assoc, inductionHypothesis, ← List.append_assoc,
      step_conserves, List.append_assoc]

/-- An offer is accepted or lost. -/
theorem accepted_sublist (waiting : List α) (events : List (Event α)) :
    (sent (step size) (accepted size) waiting events).Sublist (events.flatMap offered) ∧
      (sent (step size) (accepted size) waiting events).length +
        (sent (step size) (lost size) waiting events).length =
          (events.flatMap offered).length := by
  induction events generalizing waiting with
  | nil => simp [sent]
  | cons event rest inductionHypothesis =>
    obtain ⟨sublist, count⟩ := inductionHypothesis (step size waiting event)
    have here : (accepted size waiting event).Sublist (offered event) ∧
        (accepted size waiting event).length + (lost size waiting event).length =
          (offered event).length := by
      cases event with
      | put item =>
        simp only [accepted, lost, offered]
        split <;> simp
      | get => simp [accepted, lost, offered]
    rw [sent, sent, List.flatMap_cons]
    refine ⟨here.1.append sublist, ?_⟩
    simp only [List.length_append]
    omega

/-- A bounded mailbox never holds more than its size. -/
theorem run_bounded (bounded : 0 < size) (fits : waiting.length ≤ size)
    (events : List (Event α)) : (run (step size) waiting events).length ≤ size := by
  induction events generalizing waiting with
  | nil => exact fits
  | cons event rest inductionHypothesis =>
    apply inductionHypothesis
    cases event with
    | put item =>
      rw [step]
      split
      case isTrue => exact fits
      case isFalse roomless =>
        have room : ¬ size ≤ waiting.length := fun beyond =>
          roomless (full_iff.mpr ⟨bounded, beyond⟩)
        rw [List.length_append, List.length_singleton]
        omega
    | get =>
      rw [step, List.length_tail]
      omega

/-- Nothing is lost exactly if every offer finds room. -/
theorem lost_eq_nil_iff (waiting : List α) (events : List (Event α)) :
    sent (step size) (lost size) waiting events = [] ↔
      Along (step size) (Roomy size) waiting events := by
  induction events generalizing waiting with
  | nil => simp [sent, Along]
  | cons event rest inductionHypothesis =>
    have here : lost size waiting event = [] ↔ Roomy size waiting event := by
      cases event with
      | put item => cases room : full size waiting <;> simp [lost, Roomy, room]
      | get => simp [lost, Roomy]
    rw [sent, List.append_eq_nil_iff, here, inductionHypothesis]
    rfl

/-- A mailbox keeps all that it is offered exactly if every offer finds room. -/
theorem lossless_iff (waiting : List α) (events : List (Event α)) :
    sent (step size) got waiting events ++ run (step size) waiting events =
        waiting ++ events.flatMap offered ↔
      Along (step size) (Roomy size) waiting events := by
  obtain ⟨sublist, count⟩ := @accepted_sublist α size waiting events
  rw [run_conserves, List.append_cancel_left_eq, ← lost_eq_nil_iff, ← List.length_eq_zero_iff]
  constructor
  · intro same
    have lengths := congrArg List.length same
    omega
  · intro none
    apply sublist.eq_of_length
    omega

/-- What has come out was offered before, in this order. -/
theorem kept_sublist (waiting : List α) (events : List (Event α)) :
    (sent (step size) got waiting events ++ run (step size) waiting events).Sublist
      (waiting ++ events.flatMap offered) := by
  rw [run_conserves]
  exact (accepted_sublist waiting events).1.append_left waiting

end OptionChain.Mailboxes
