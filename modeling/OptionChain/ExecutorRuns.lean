import OptionChain.SmartExecutor

/-!
# The rule of a call

`execute_leg` makes its orders one after the other. What holds before the first order
and is kept by each order that is read holds when the call returns, and what follows from
the order that raises holds when an exception leaves the call. The ladder's attempt
number is the number of orders made before it.
-/

namespace OptionChain.ExecutorRuns

open Broker SmartExecutor

section Call

variable (venue : Venue) (leg : LegOrder) (chases : Nat)

/-- The ladder goes on from here, and sends its next order at this price. -/
structure Rung (progress : Progress) (price : Rat) : Prop where
  short : 0 < leg.qty - progress.filledQty
  within : progress.attempts.length ≤ chases
  quoted : rungQuote venue leg chases progress.attempts.length = some price

/-- The order of a rung at this price. -/
def rungOrder (progress : Progress) (price : Rat) : OrderRequest :=
  limitRequest leg (leg.qty - progress.filledQty) price

/-- The MARKET order for what is not booked. -/
def restOrder (progress : Progress) : OrderRequest :=
  marketRequest leg (leg.qty - progress.filledQty)

/-- What has to be shown of each kind of order: `Kept` holds before every order and after
those that are read, `Left` after the one that raises. -/
structure Steps (Kept Left : Progress → Prop) : Prop where
  empty : Kept .empty
  refusedRung : ∀ progress price, Kept progress → Rung venue leg chases progress price →
    venue.place progress.attempts.length (rungOrder leg progress price) = none →
    Left (progress.attempt (rungOrder leg progress price) none)
  readRung : ∀ progress price script, Kept progress → Rung venue leg chases progress price →
    venue.place progress.attempts.length (rungOrder leg progress price) = some script →
    Kept ((progress.attempt (rungOrder leg progress price) (some script)).book (readIoc script))
  refusedRest : ∀ progress, Kept progress →
    venue.place progress.attempts.length (restOrder leg progress) = none →
    Left (progress.attempt (restOrder leg progress) none)
  unreadRest : ∀ progress script, Kept progress →
    venue.place progress.attempts.length (restOrder leg progress) = some script →
    readMarket script = none →
    Left (progress.attempt (restOrder leg progress) (some script))
  readRest : ∀ progress script read, Kept progress →
    venue.place progress.attempts.length (restOrder leg progress) = some script →
    readMarket script = some read →
    Kept ((progress.attempt (restOrder leg progress) (some script)).book read)

/-- How a stretch of a call may end. -/
def EndsIn (Kept Left : Progress → Prop) : Except Progress Progress → Prop
  | .error raised => Left raised
  | .ok progress => Kept progress

end Call

variable {venue : Venue} {leg : LegOrder} {chases : Nat} {Kept Left : Progress → Prop}

/-- Induction on the rungs still to come; their numbers continue the orders made. -/
theorem climb_rule (steps : Steps venue leg chases Kept Left) (rungs : Nat) {progress : Progress}
    (kept : Kept progress) (within : progress.attempts.length + rungs ≤ chases + 1) :
    EndsIn Kept Left (climb venue leg chases (List.range' progress.attempts.length rungs)
      progress) := by
  induction rungs generalizing progress with
  | zero => exact kept
  | succ rungs inductionHypothesis =>
    rw [List.range'_succ, climb]
    by_cases done : leg.qty - progress.filledQty ≤ 0
    · rw [if_pos done]
      exact kept
    · rw [if_neg done]
      cases quoted : rungQuote venue leg chases progress.attempts.length with
      | none => exact kept
      | some price =>
        have rung : Rung venue leg chases progress price :=
          ⟨not_le.mp done, by omega, quoted⟩
        dsimp only
        cases placed : venue.place progress.attempts.length
            (limitRequest leg (leg.qty - progress.filledQty) price) with
        | none => exact steps.refusedRung progress price kept rung placed
        | some script =>
          have read := steps.readRung progress price script kept rung placed
          dsimp only
          split
          · exact read
          · have later := inductionHypothesis read
            rw [book_attempts, attempt_attempts, List.length_append] at later
            exact later (by rw [List.length_singleton]; omega)

theorem market_rule (steps : Steps venue leg chases Kept Left) {progress : Progress}
    (kept : Kept progress) : EndsIn Kept Left (market venue leg progress) := by
  unfold market
  dsimp only
  cases placed : venue.place progress.attempts.length
      (marketRequest leg (leg.qty - progress.filledQty)) with
  | none => exact steps.refusedRest progress kept placed
  | some script =>
    dsimp only
    cases read : readMarket script with
    | none => exact steps.unreadRest progress script kept placed read
    | some booked => exact steps.readRest progress script booked kept placed read

/-- The rule of a call: one proof for each kind of order. -/
theorem orders_rule (steps : Steps venue leg chases Kept Left) :
    EndsIn Kept Left (orders venue leg chases) := by
  unfold orders
  by_cases limit : leg.useLimit = true
  · rw [if_pos limit, List.range_eq_range']
    have climbed := climb_rule steps (chases + 1) steps.empty (Nat.le_of_eq (Nat.zero_add _))
    cases outcome : climb venue leg chases (List.range' 0 (chases + 1)) .empty with
    | error raised =>
      rw [show Progress.empty.attempts.length = 0 from rfl, outcome] at climbed
      exact climbed
    | ok progress =>
      rw [show Progress.empty.attempts.length = 0 from rfl, outcome] at climbed
      dsimp only
      by_cases short : progress.filledQty < leg.qty
      · rw [if_pos short]
        exact market_rule steps climbed
      · rw [if_neg short]
        exact climbed
  · rw [if_neg limit]
    exact market_rule steps steps.empty

end OptionChain.ExecutorRuns
