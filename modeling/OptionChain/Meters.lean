import Mathlib.Algebra.Order.Field.Basic
import Mathlib.Data.List.Count
import Mathlib.Tactic.Linarith
import Mathlib.Tactic.Ring

/-!
# Meters

A meter fills at a constant rate up to a capacity and gives out one unit at a time.
Its log keeps the times at which units were given. The units given since any time,
together with the level, never exceed the capacity and what has flowed in since: so
no window sees more units than the capacity and its own inflow.
-/

namespace OptionChain.Meters

universe u

/-- The level, the time up to which it is filled, and the times of the units given. -/
structure Meter (K : Type u) where
  level : K
  last : K
  log : List K

section Log

variable {K : Type u} [LinearOrder K]

/-- The units given in a window, with both of its ends. -/
def given (log : List K) (start stop : K) : Nat :=
  log.countP (fun time => decide (start ≤ time) && decide (time ≤ stop))

/-- A log of the past is cut short by no later end. -/
theorem given_later {log : List K} {last : K} (past : ∀ time ∈ log, time ≤ last) (start now : K)
    (later : last ≤ now) : given log start now = given log start last := by
  unfold given
  apply List.countP_congr
  intro time inside
  have before := past time inside
  simp [before, before.trans later]

/-- Nothing has been given after the last time. -/
theorem given_none {log : List K} {last : K} (past : ∀ time ∈ log, time ≤ last) (start stop : K)
    (later : last < start) : given log start stop = 0 := by
  unfold given
  rw [List.countP_eq_zero]
  intro time inside
  have before := past time inside
  simp [not_le.mpr (lt_of_le_of_lt before later)]

theorem given_snoc (log : List K) (time start stop : K) :
    given (log ++ [time]) start stop = given log start stop +
      if start ≤ time ∧ time ≤ stop then 1 else 0 := by
  unfold given
  simp [List.countP_append, List.countP_cons]

end Log

namespace Meter

variable {K : Type u} [Field K] [LinearOrder K] (rate capacity : K)

/-- Fill up to a later time. -/
def advance (meter : Meter K) (now : K) : Meter K :=
  { meter with
    level := min capacity (meter.level + (now - meter.last) * rate)
    last := now }

/-- Give one unit. -/
def take (meter : Meter K) : Meter K :=
  { meter with
    level := meter.level - 1
    log := meter.log ++ [meter.last] }

/-- A level within the capacity, a log of the past, and the balance of every time. -/
structure Metered (meter : Meter K) : Prop where
  nonneg : 0 ≤ meter.level
  bounded : meter.level ≤ capacity
  past : ∀ time ∈ meter.log, time ≤ meter.last
  balance : ∀ start ≤ meter.last,
    (given meter.log start meter.last : K) + meter.level ≤
      capacity + rate * (meter.last - start)
  window : ∀ start stop, start ≤ stop →
    (given meter.log start stop : K) ≤ capacity + rate * (stop - start)

variable [IsStrictOrderedRing K] {rate capacity} {meter : Meter K}

/-- A full meter that has given nothing is metered at any time. -/
theorem metered_fresh (positive : 0 ≤ rate) (room : 0 ≤ capacity) (now : K) :
    Metered rate capacity ⟨capacity, now, []⟩ := by
  refine ⟨room, le_refl _, by simp, ?_, ?_⟩
  · intro start before
    have inflow : 0 ≤ rate * (now - start) := mul_nonneg positive (by linarith)
    simpa [given] using inflow
  · intro start stop ordered
    have inflow : 0 ≤ rate * (stop - start) := mul_nonneg positive (by linarith)
    simp only [given, List.countP_nil, Nat.cast_zero]
    linarith

/-- Filling keeps the balance: what flows in is at most the rate times the time. -/
theorem advance_metered (positive : 0 ≤ rate) (metered : Metered rate capacity meter) (now : K)
    (later : meter.last ≤ now) : Metered rate capacity (meter.advance rate capacity now) := by
  have inflow : 0 ≤ (now - meter.last) * rate := mul_nonneg (by linarith) positive
  have room : 0 ≤ capacity := metered.nonneg.trans metered.bounded
  refine ⟨?_, min_le_left _ _, ?_, ?_, metered.window⟩
  · exact le_min room (add_nonneg metered.nonneg inflow)
  · intro time inside
    exact (metered.past time inside).trans later
  · intro start before
    have ordered : start ≤ now := before
    change (given meter.log start now : K) +
        min capacity (meter.level + (now - meter.last) * rate) ≤ capacity + rate * (now - start)
    rcases le_or_gt start meter.last with early | late
    · have balance := metered.balance start early
      have filled := min_le_right capacity (meter.level + (now - meter.last) * rate)
      have split : rate * (now - start) =
          rate * (meter.last - start) + (now - meter.last) * rate := by ring
      rw [given_later metered.past start now later]
      linarith
    · have full := min_le_left capacity (meter.level + (now - meter.last) * rate)
      have since : 0 ≤ rate * (now - start) := mul_nonneg positive (by linarith)
      rw [given_none metered.past start now late, Nat.cast_zero]
      linarith

/-- Giving a unit moves it from the level to the log. -/
theorem take_metered (positive : 0 ≤ rate) (metered : Metered rate capacity meter)
    (enough : 1 ≤ meter.level) : Metered rate capacity meter.take := by
  have bounded := metered.bounded
  refine ⟨sub_nonneg.mpr enough, ?_, ?_, ?_, ?_⟩
  · change meter.level - 1 ≤ capacity
    linarith
  · intro time inside
    rcases List.mem_append.mp inside with before | here
    · exact metered.past time before
    · exact le_of_eq (List.mem_singleton.mp here)
  · intro start before
    have balance := metered.balance start before
    change (given (meter.log ++ [meter.last]) start meter.last : K) + (meter.level - 1) ≤ _
    rw [given_snoc, if_pos ⟨before, le_refl _⟩, Nat.cast_add, Nat.cast_one]
    change _ ≤ capacity + rate * (meter.last - start)
    linarith
  · intro start stop ordered
    change (given (meter.log ++ [meter.last]) start stop : K) ≤ _
    rw [given_snoc]
    split
    -- The unit falls into the window: the balance at the last time bounds it.
    · rename_i inside
      have balance := metered.balance start inside.1
      have longer : rate * (meter.last - start) ≤ rate * (stop - start) :=
        mul_le_mul_of_nonneg_left (by linarith [inside.2]) positive
      rw [given_later metered.past start stop inside.2, Nat.cast_add, Nat.cast_one]
      linarith
    · simpa using metered.window start stop ordered

end Meter

end OptionChain.Meters
