import OptionChain.IronCondor

/-!
# A tick of an open iron condor

The branch of the tick loop that manages an open position has no exception guard.
`tick_handled_iff` says when it gets through: exactly when the adjustment is not
due, since the name under which the adjustment reads its clock is bound nowhere.
-/

namespace OptionChain.CondorTick

open Broker CondorPosition IronCondor

/-- The grace period is over and the profit target or the stop loss is reached. -/
def ExitDue (settings : Settings) (clock : Clock) (pos : IronCondorPosition) : Prop :=
  (∀ opened ∈ pos.openTime, settings.entryGraceSec ≤ clock.now - opened) ∧
    (pos.profitTargetRs ≤ pos.totalPnlRs ∨ pos.totalPnlRs ≤ -pos.slRs)

/-- One short leg is priced at the trigger ratio times the other or above it. -/
def RatioMet (settings : Settings) (pos : IronCondorPosition) : Prop :=
  0 < pos.shortCe.ltp ∧ 0 < pos.shortPe.ltp ∧
    (settings.ratioTrigger ≤ pos.shortCe.ltp / pos.shortPe.ltp ∨
      settings.ratioTrigger ≤ pos.shortPe.ltp / pos.shortCe.ltp)

/-- The position stays open on this tick, its ratio is met, and the last
adjustment is long enough ago. -/
def AdjustmentDue (settings : Settings) (clock : Clock) (lastAdjustT : Rat)
    (pos : IronCondorPosition) : Prop :=
  ¬ExitDue settings clock pos ∧ RatioMet settings pos ∧
    settings.adjustCooldown ≤ clock.monotonic - lastAdjustT

instance (settings : Settings) (clock : Clock) (pos : IronCondorPosition) :
    Decidable (ExitDue settings clock pos) :=
  inferInstanceAs (Decidable ((∀ opened ∈ pos.openTime, _) ∧ (_ ∨ _)))

instance (settings : Settings) (pos : IronCondorPosition) :
    Decidable (RatioMet settings pos) :=
  inferInstanceAs (Decidable (_ ∧ _ ∧ (_ ∨ _)))

instance (settings : Settings) (clock : Clock) (lastAdjustT : Rat)
    (pos : IronCondorPosition) : Decidable (AdjustmentDue settings clock lastAdjustT pos) :=
  inferInstanceAs (Decidable (_ ∧ _ ∧ _))

/-- The tick is worked off without an error, a due adjustment is made on it, and
the loop goes on to the next tick. -/
def Handled (settings : Settings) (clock : Clock) (ltp : Rat) (tradeId : String)
    (pos : IronCondorPosition) (strategy : Strategy) : Prop :=
  let ticked := strategy.ticked ltp
  (∃ after, openTick settings clock ticked = .ok after ∧
    (AdjustmentDue settings clock strategy.lastAdjustT pos →
      ∃ side ∈ adjustmentSide settings ticked,
        after = { adjustIronCondor settings clock side ticked with
          lastAdjustT := clock.monotonic })) ∧
    (indexTick settings clock ltp tradeId strategy).tickLoopAlive = true

section Tick

variable {settings : Settings} {clock : Clock} {pos : IronCondorPosition} {strategy : Strategy}

theorem exitReason_isSome_iff :
    (exitReason settings clock pos).isSome = true ↔ ExitDue settings clock pos := by
  by_cases late : ∀ opened ∈ pos.openTime, settings.entryGraceSec ≤ clock.now - opened
  · have notEarly : ¬∃ opened ∈ pos.openTime, clock.now - opened < settings.entryGraceSec := by
      rintro ⟨opened, stamped, early⟩
      exact absurd (late opened stamped) (not_le.mpr early)
    rw [exitReason, if_neg notEarly, ExitDue]
    split_ifs with target stop
    · simpa [target] using late
    · simpa [stop] using late
    · simp [target, stop]
  · have early : ∃ opened ∈ pos.openTime, clock.now - opened < settings.entryGraceSec := by
      by_contra none
      exact late (fun opened stamped => not_lt.mp (fun lt => none ⟨opened, stamped, lt⟩))
    rw [exitReason, if_pos early]
    simp only [Option.isSome_none, Bool.false_eq_true, false_iff]
    exact fun due => late due.1

theorem adjustmentSide_isSome_iff (held : strategy.position = some pos)
    (opened : pos.status = .open) :
    (adjustmentSide settings strategy).isSome = true ↔ RatioMet settings pos := by
  rw [adjustmentSide, RatioMet, held]
  simp only [opened, ne_eq, not_true_eq_false, false_or]
  split_ifs with unpriced call put
  · have : ¬(0 < pos.shortCe.ltp ∧ 0 < pos.shortPe.ltp) := by
      rintro ⟨ce, pe⟩
      rcases unpriced with low | low
      · exact absurd ce (not_lt.mpr low)
      · exact absurd pe (not_lt.mpr low)
    simp only [Option.isSome_none, Bool.false_eq_true, false_iff]
    rintro ⟨ce, pe, -⟩
    exact this ⟨ce, pe⟩
  all_goals
    have priced : 0 < pos.shortCe.ltp ∧ 0 < pos.shortPe.ltp := by
      rw [not_or, not_le, not_le] at unpriced
      exact unpriced
  · simp [priced, call]
  · simp [priced, put]
  · simp [call, put]

/-- A position that is closed on the tick leaves nothing to adjust. -/
theorem openTick_of_exitDue (held : strategy.position = some pos)
    (due : ExitDue settings clock pos) :
    ∃ reason, openTick settings clock strategy =
      .ok (closePosition settings clock reason strategy) := by
  obtain ⟨reason, found⟩ := Option.isSome_iff_exists.mp (exitReason_isSome_iff.mpr due)
  have closed : (closePosition settings clock reason strategy).position = none := by
    simp [closePosition, beginClose, held, finishClose, persist]
  refine ⟨reason, ?_⟩
  simp only [openTick, checkExits, held, found, checkAdjustmentCriteria, adjustmentSide, closed]
  split_ifs <;> rfl

/-- A position that stays open is left as it is, unless it is to be adjusted. -/
theorem openTick_of_not_exitDue (held : strategy.position = some pos)
    (opened : pos.status = .open) (free : strategy.adjusting = false)
    (stays : ¬ExitDue settings clock pos) :
    openTick settings clock strategy =
      if AdjustmentDue settings clock strategy.lastAdjustT pos then .error .nameError
      else .ok strategy := by
  have kept : exitReason settings clock pos = none := by
    rw [← exitReason_isSome_iff, Option.not_isSome_iff_eq_none] at stays
    exact stays
  simp only [openTick, checkExits, held, kept, checkAdjustmentCriteria, free,
    Bool.false_eq_true, if_false]
  by_cases cooling : clock.monotonic - strategy.lastAdjustT < settings.adjustCooldown
  · rw [if_pos cooling, if_neg]
    rintro ⟨-, -, elapsed⟩
    exact absurd cooling (not_lt.mpr elapsed)
  · rw [if_neg cooling]
    have side := @adjustmentSide_isSome_iff settings _ _ held opened
    cases found : adjustmentSide settings strategy with
    | none =>
      rw [found] at side
      rw [if_neg]
      rintro ⟨-, ratio, -⟩
      exact absurd (side.mpr ratio) (by simp)
    | some which =>
      rw [found] at side
      rw [if_pos ⟨stays, side.mp rfl, not_lt.mp cooling⟩]

theorem closePosition_tickLoopAlive (reason : String) :
    (closePosition settings clock reason strategy).tickLoopAlive = strategy.tickLoopAlive := by
  cases held : strategy.position with
  | none => simp [closePosition, beginClose, held]
  | some pos => simp [closePosition, beginClose, held, finishClose, persist, Strategy.publish]

/-- The loop takes the managing branch on an open position without an adjustment. -/
theorem indexTick_managed {ltp : Rat} {tradeId : String} (held : strategy.position = some pos)
    (opened : pos.status = .open) (free : strategy.adjusting = false)
    (alive : strategy.tickLoopAlive = true) :
    indexTick settings clock ltp tradeId strategy =
      manage settings clock (strategy.ticked ltp) := by
  have inside : managed (strategy.ticked ltp) := ⟨pos, held, opened⟩
  have unlocked : (strategy.ticked ltp).adjusting = false := free
  rw [indexTick, if_pos alive]
  simp only [inside, unlocked, if_true, Bool.false_eq_true, if_false]

end Tick

/-- For every open position that no adjustment holds, with any prices of its legs,
and every index tick: the tick is handled exactly when it does not leave the
position open with its ratio met and the cooldown over. -/
theorem tick_handled_iff (settings : Settings) (clock : Clock) (ltp : Rat) (tradeId : String)
    (pos : IronCondorPosition) (strategy : Strategy) (held : strategy.position = some pos)
    (opened : pos.status = .open) (free : strategy.adjusting = false)
    (alive : strategy.tickLoopAlive = true) :
    Handled settings clock ltp tradeId pos strategy ↔
      ¬AdjustmentDue settings clock strategy.lastAdjustT pos := by
  have loop := @indexTick_managed settings clock _ _ ltp tradeId held opened free alive
  rw [Handled, loop, manage]
  by_cases due : ExitDue settings clock pos
  · obtain ⟨reason, worked⟩ := @openTick_of_exitDue _ _ _ (strategy.ticked ltp) held due
    have quiet : ¬AdjustmentDue settings clock strategy.lastAdjustT pos :=
      fun adjustment => adjustment.1 due
    have goesOn : (closePosition settings clock reason
        (strategy.ticked ltp)).tickLoopAlive = true := by
      rw [closePosition_tickLoopAlive]
      exact alive
    rw [worked]
    simp [quiet, goesOn]
  · have worked := @openTick_of_not_exitDue _ _ _ (strategy.ticked ltp) held opened free due
    have same : (strategy.ticked ltp).lastAdjustT = strategy.lastAdjustT := rfl
    have goesOn : (strategy.ticked ltp).tickLoopAlive = true := alive
    rw [worked, same]
    by_cases adjustment : AdjustmentDue settings clock strategy.lastAdjustT pos
    · rw [if_pos adjustment]
      simp [adjustment]
    · rw [if_neg adjustment]
      simp [adjustment, goesOn]

/-- A condor of 24600 whose short call costs four times the short put. -/
def breached : IronCondorPosition where
  underlying := "NIFTY"
  expiry := 10
  atmAtEntry := 24600
  tradeId := "t1"
  shortCe := ⟨.sell, .ce, 24900, 60, 80, false⟩
  shortPe := ⟨.sell, .pe, 24300, 60, 20, false⟩
  longCe := ⟨.buy, .ce, 25050, 30, 40, false⟩
  longPe := ⟨.buy, .pe, 24150, 30, 10, false⟩
  netCredit := 60
  credited := by decide +kernel

/-- Within the cooldown of the last adjustment the tick is handled. -/
theorem tick_handled_in_the_cooldown :
    Handled .shipped noon 24700 "t2" breached
      { underlying := "NIFTY", position := some breached, lastAdjustT := 990 } :=
  (tick_handled_iff .shipped noon 24700 "t2" breached
    { underlying := "NIFTY", position := some breached, lastAdjustT := 990 } rfl rfl rfl rfl).mpr
    (by decide +kernel)

/-- Without an earlier adjustment the same tick raises and ends the loop. -/
theorem tick_ends_the_loop :
    ¬Handled .shipped noon 24700 "t2" breached
      { underlying := "NIFTY", position := some breached } := by
  rintro ⟨-, alive⟩
  have dead : (indexTick .shipped noon 24700 "t2"
      { underlying := "NIFTY", position := some breached }).tickLoopAlive = false := by
    decide +kernel
  rw [dead] at alive
  exact absurd alive (by decide)

end OptionChain.CondorTick
