import OptionChain.SmartExecutor

/-!
# How the orders of a call are sized

Every order of `execute_leg` asks for what the call has not booked yet, and every order
but the last is an IOC limit order that was accepted. So what a call really executes is
decided by what its reads left unbooked, whatever the broker is.
-/

namespace OptionChain.ExecutorSizing

open Broker SmartExecutor

/-- The quantity of a fill that has a price. -/
def priced (read : Int × Rat) : Int := if 0 < read.1 ∧ 0 < read.2 then read.1 else 0

/-- What an IOC attempt adds to the books. -/
def bookedBy (attempt : Attempt) : Int :=
  match attempt.answer with
  | none => 0
  | some script => priced (readIoc script)

def bookedQty (attempts : List Attempt) : Int := (attempts.map bookedBy).sum

@[simp] theorem bookedQty_snoc (attempts : List Attempt) (attempt : Attempt) :
    bookedQty (attempts ++ [attempt]) = bookedQty attempts + bookedBy attempt := by
  simp [bookedQty]

theorem book_filledQty (progress : Progress) (read : Int × Rat) :
    (progress.book read).filledQty = progress.filledQty + priced read := by
  unfold Progress.book priced
  split
  · rfl
  · exact (Int.add_zero _).symm

@[simp] theorem attempt_filledQty (progress : Progress) (request : OrderRequest)
    (answer : Option OrderScript) :
    (progress.attempt request answer).filledQty = progress.filledQty := rfl

section Call

variable (venue : Venue) (leg : LegOrder)

/-- The state between two rungs: accepted IOC orders, answered by the venue in turn, and
books that hold what was read of them. -/
structure Climbed (progress : Progress) : Prop where
  answered : ∀ n attempt, progress.attempts[n]? = some attempt →
    attempt.answer = venue.place n attempt.request
  accepted : ∀ attempt ∈ progress.attempts, attempt.answer.isSome = true
  ioc : ∀ attempt ∈ progress.attempts, attempt.request.timeInForce = "ioc"
  booked : progress.filledQty = bookedQty progress.attempts

/-- The orders of a call that has ended: such a state, and one order for the rest. -/
def Ended (attempts : List Attempt) : Prop :=
  ∃ before last, Climbed venue before ∧ attempts = before.attempts ++ [last] ∧
    last.answer = venue.place before.attempts.length last.request ∧
    last.request.qty = leg.qty - before.filledQty

/-- The orders attempted by a call, however it was left. -/
def attemptsOf : Except Progress Progress → List Attempt
  | .error raised => raised.attempts
  | .ok progress => progress.attempts

/-- How a call may stand after some rungs: left by an exception, or between two rungs
and ended if everything is booked. -/
def Stands : Except Progress Progress → Prop
  | .error raised => Ended venue leg raised.attempts
  | .ok progress =>
      Climbed venue progress ∧ (leg.qty ≤ progress.filledQty → Ended venue leg progress.attempts)

variable {venue} {leg}

theorem climbed_empty : Climbed venue .empty := by
  constructor
  · intro n attempt found
    simp [Progress.empty] at found
  · intro attempt found
    cases found
  · intro attempt found
    cases found
  · rfl

/-- An accepted rung that is read keeps the state. -/
theorem climbed_rung {progress : Progress} {request : OrderRequest} {script : OrderScript}
    (climbed : Climbed venue progress) (ioc : request.timeInForce = "ioc")
    (placed : venue.place progress.attempts.length request = some script) :
    Climbed venue ((progress.attempt request (some script)).book (readIoc script)) := by
  constructor
  · intro n attempt found
    rw [book_attempts, attempt_attempts, List.getElem?_append] at found
    split at found
    · exact climbed.answered n attempt found
    · rename_i beyond
      have last : n = progress.attempts.length := by
        have bound := (List.getElem?_eq_some_iff.mp found).1
        simp only [List.length_singleton] at bound
        omega
      subst last
      simp only [Nat.sub_self, List.getElem?_cons_zero, Option.some.injEq] at found
      subst found
      exact placed.symm
  · intro attempt found
    rw [book_attempts, attempt_attempts, List.mem_append, List.mem_singleton] at found
    rcases found with old | rfl
    · exact climbed.accepted attempt old
    · rfl
  · intro attempt found
    rw [book_attempts, attempt_attempts, List.mem_append, List.mem_singleton] at found
    rcases found with old | rfl
    · exact climbed.ioc attempt old
    · exact ioc
  · rw [book_filledQty, book_attempts, attempt_attempts, attempt_filledQty, bookedQty_snoc,
      climbed.booked]
    rfl

/-- An order for the rest ends the call, accepted or not. -/
theorem ended_order {progress : Progress} (request : OrderRequest)
    (climbed : Climbed venue progress) (sized : request.qty = leg.qty - progress.filledQty) :
    Ended venue leg (progress.attempts ++
      [⟨request, venue.place progress.attempts.length request⟩]) :=
  ⟨progress, _, climbed, rfl, rfl, sized⟩

/-- The rungs still to come keep the call standing: induction on them. -/
theorem climb_stands (chases : Nat) (attempts : List Nat) {progress : Progress}
    (climbed : Climbed venue progress)
    (done : leg.qty ≤ progress.filledQty → Ended venue leg progress.attempts) :
    Stands venue leg (climb venue leg chases attempts progress) := by
  induction attempts generalizing progress with
  | nil => exact ⟨climbed, done⟩
  | cons attempt later inductionHypothesis =>
    unfold climb
    by_cases full : leg.qty - progress.filledQty ≤ 0
    · rw [if_pos full]
      exact ⟨climbed, done⟩
    · rw [if_neg full]
      cases rungQuote venue leg chases attempt with
      | none => exact ⟨climbed, done⟩
      | some price =>
        have ended := ended_order (limitRequest leg (leg.qty - progress.filledQty) price)
          climbed rfl
        dsimp only
        cases placed : venue.place progress.attempts.length
            (limitRequest leg (leg.qty - progress.filledQty) price) with
        | none =>
          rw [placed] at ended
          exact ended
        | some script =>
          rw [placed] at ended
          have kept := climbed_rung climbed rfl placed
          have last : Ended venue leg ((progress.attempt
              (limitRequest leg (leg.qty - progress.filledQty) price) (some script)).book
                (readIoc script)).attempts := by
            rw [book_attempts]
            exact ended
          dsimp only
          split
          · exact ⟨kept, fun _ => last⟩
          · exact inductionHypothesis kept (fun _ => last)

/-- The MARKET order ends the call. -/
theorem market_ended {progress : Progress} (climbed : Climbed venue progress) :
    Ended venue leg (attemptsOf (market venue leg progress)) := by
  have ended := ended_order (marketRequest leg (leg.qty - progress.filledQty)) climbed rfl
  unfold market
  dsimp only
  cases placed : venue.place progress.attempts.length
      (marketRequest leg (leg.qty - progress.filledQty)) with
  | none =>
    rw [placed] at ended
    exact ended
  | some script =>
    rw [placed] at ended
    dsimp only
    cases readMarket script with
    | none => exact ended
    | some read =>
      simp only [attemptsOf, book_attempts]
      exact ended

/-- A call for a positive quantity ends with an order for what it had not booked. -/
theorem execute_leg_ended (chases : Nat) (positive : 0 < leg.qty) :
    Ended venue leg (executeLeg venue leg chases).1 := by
  have projected : (executeLeg venue leg chases).1 = attemptsOf (orders venue leg chases) := by
    unfold executeLeg
    cases orders venue leg chases <;> rfl
  rw [projected]
  unfold orders
  by_cases limit : leg.useLimit = true
  · rw [if_pos limit]
    have unbooked : leg.qty ≤ Progress.empty.filledQty →
        Ended venue leg Progress.empty.attempts :=
      fun booked => absurd booked (not_le.mpr positive)
    have stands := climb_stands chases (List.range (chases + 1)) climbed_empty unbooked
    cases outcome : climb venue leg chases (List.range (chases + 1)) .empty with
    | error raised =>
      rw [outcome] at stands
      exact stands
    | ok progress =>
      rw [outcome] at stands
      obtain ⟨climbed, ended⟩ := stands
      dsimp only
      by_cases short : progress.filledQty < leg.qty
      · rw [if_pos short]
        exact market_ended climbed
      · rw [if_neg short]
        exact ended (not_lt.mp short)
  · rw [if_neg limit]
    exact market_ended climbed_empty

end Call

end OptionChain.ExecutorSizing
