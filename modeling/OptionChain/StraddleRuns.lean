import OptionChain.SessionRestart

/-!
# Runs of one strategy object

Between its start and its end a strategy object handles candles, ticks, fills and
square-offs, each with the settings and the clock that it meets. A restart is none of
these: it ends one object and starts another.
-/

namespace OptionChain.StraddleRuns

open Broker Runs StraddleEvents StraddleBook StraddleExits StraddleStore SessionRestart

inductive Stimulus where
  | candle
  | indexTick (market : Market) (ltp : Rat)
  | optionTick (optType : OptType) (strike ltp : Rat)
  | fill (ev : StraddleFillEvent)
  | squareOff (reason : String)

def Stimulus.handled : Stimulus → Handled
  | .candle => .candle
  | .indexTick market ltp => .indexTick market ltp
  | .optionTick optType strike ltp => .optionTick optType strike ltp
  | .fill ev => .fill ev
  | .squareOff reason => .squareOff reason

structure Moment where
  settings : ExitSettings
  clock : Clock
  stimulus : Stimulus

section Moments

variable (identity : Identity)

def respond (strategy : Strategy) (moment : Moment) : Strategy × List Effect :=
  handle identity moment.settings moment.clock strategy moment.stimulus.handled

/-- One moment of a strategy object. -/
def strategyStep (strategy : Strategy) (moment : Moment) : Strategy :=
  (respond identity strategy moment).1

/-- The moment is a candle that resets the session. -/
def resets (strategy : Strategy) (moment : Moment) : Bool :=
  match moment.stimulus with
  | .candle => newSession moment.settings moment.clock strategy
  | .indexTick _ _ | .optionTick _ _ _ | .fill _ | .squareOff _ => false

/-- No ENTRY order is published. -/
def NoEntry (strategy : Strategy) (moment : Moment) : Prop :=
  ∀ effect ∈ (respond identity strategy moment).2, isEntry effect = false

instance (strategy : Strategy) (moment : Moment) : Decidable (NoEntry identity strategy moment) :=
  inferInstanceAs (Decidable (∀ effect ∈ _, _))

/-- Within its session a halted book stays halted, and silent. -/
theorem respond_halted {strategy : Strategy} {moment : Moment} (halted : Halted strategy.book)
    (within : resets strategy moment = false) :
    Halted (strategyStep identity strategy moment).book ∧ NoEntry identity strategy moment := by
  obtain ⟨settings, clock, stimulus⟩ := moment
  apply handle_halted identity settings clock stimulus.handled halted
  intro candle
  cases stimulus with
  | candle => exact within
  | indexTick market ltp => simp [Stimulus.handled] at candle
  | optionTick optType strike ltp => simp [Stimulus.handled] at candle
  | fill ev => simp [Stimulus.handled] at candle
  | squareOff reason => simp [Stimulus.handled] at candle

end Moments

/-! ## The exits that close the whole position -/

section Closing

variable (identity : Identity) (settings : ExitSettings) (clock : Clock) {strategy : Strategy}

/-- A close sends no entry. -/
theorem close_silent (reason : String) :
    ∀ effect ∈ (close identity settings clock strategy reason).2, isEntry effect = false := by
  rw [close, Strategy.withBook, closePosition]
  cases strategy.book.position with
  | none => simp
  | some pos => simp [isEntry, emitOrder, orderEvent, persist]

/-- Nor does the exit of a verdict. -/
theorem enact_silent (found : Verdict) :
    ∀ effect ∈ (enact identity settings clock strategy found).2, isEntry effect = false := by
  rw [enact]
  split
  · exact close_silent identity settings clock found.reason
  · exact close_silent identity settings clock found.reason

/-- The exit of a verdict leaves a halted book where the verdict ends the day, or the day
had ended before. -/
theorem enact_halted {pos : StraddlePosition} (held : strategy.book.position = some pos)
    (found : Verdict) (ends : found.stopsDay = true ∨ strategy.book.stopForDay = true) :
    Halted (enact identity settings clock strategy found).1.book := by
  have flat : (close identity settings clock strategy found.reason).1.book.position = none := by
    simp [close, Strategy.withBook, closePosition, held]
  have flag : (close identity settings clock strategy found.reason).1.book.stopForDay =
      strategy.book.stopForDay := closePosition_stopForDay found.reason
  rw [enact]
  by_cases stops : found.stopsDay = true
  · rw [if_pos stops]
    exact ⟨rfl, flat⟩
  · rw [if_neg stops]
    exact ⟨flag.trans (ends.resolve_left stops), flat⟩

end Closing

end OptionChain.StraddleRuns
