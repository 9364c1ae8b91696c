import OptionChain.StraddleRuns

/-!
# The guardrails of a session, once hit

Four of the five exits that close a position for a limit of its session end the day
after the close. The stop-loss of the P&L guardrail closes and does not: the book may
enter again, and is closed again on the next tick that still breaches the limit.
-/

namespace OptionChain.GuardrailLatch

open Broker Runs StraddleEvents StraddleBook StraddleExits StraddleStore SessionRestart
  StraddleRuns

/-- A strategy, and whether a limit of its session has closed a position since the last
reset. -/
structure Watched where
  strategy : Strategy
  limited : Bool
deriving DecidableEq

/-- The limit by which `_check_exits` closes the position at a moment. -/
def sessionExit (strategy : Strategy) (moment : Moment) : Option Verdict :=
  match moment.stimulus with
  | .indexTick _ ltp =>
      if isPositionOpen (strategy.see ltp) then
        strategy.book.position.bind (verdict moment.settings moment.clock (strategy.see ltp))
      else none
  | .candle | .optionTick _ _ _ | .fill _ | .squareOff _ => none

/-- No ENTRY order once a limit has closed the position. -/
def Quiet (identity : Identity) (watched : Watched) (moment : Moment) : Prop :=
  watched.limited = true → NoEntry identity watched.strategy moment

/-- The P&L guardrail's stop-loss meets a day that has ended already. -/
def Latched (watched : Watched) (moment : Moment) : Prop :=
  sessionExit watched.strategy moment = some .guardrailPnlSl →
    watched.strategy.book.stopForDay = true

/-- Once limited, halted. -/
def LimitHolds (watched : Watched) : Prop :=
  watched.limited = true → Halted watched.strategy.book

instance (identity : Identity) (watched : Watched) (moment : Moment) :
    Decidable (Quiet identity watched moment) :=
  inferInstanceAs (Decidable (_ → _))

instance (watched : Watched) (moment : Moment) : Decidable (Latched watched moment) :=
  inferInstanceAs (Decidable (_ → _))

section Watching

variable (identity : Identity)

def watchStep (watched : Watched) (moment : Moment) : Watched where
  strategy := strategyStep identity watched.strategy moment
  limited :=
    (watched.limited && !resets watched.strategy moment) ||
      (sessionExit watched.strategy moment).isSome

variable {identity} {watched : Watched} {moment : Moment}

/-- A limit fires on an index tick with an open position. -/
theorem sessionExit_cases {found : Verdict}
    (fired : sessionExit watched.strategy moment = some found) :
    ∃ market ltp pos, moment.stimulus = .indexTick market ltp ∧
      isPositionOpen (watched.strategy.see ltp) = true ∧
      (watched.strategy.see ltp).book.position = some pos ∧
      verdict moment.settings moment.clock (watched.strategy.see ltp) pos = some found := by
  rw [sessionExit] at fired
  cases kind : moment.stimulus with
  | indexTick market ltp =>
    simp only [kind] at fired
    by_cases holding : isPositionOpen (watched.strategy.see ltp) = true
    · rw [if_pos holding, Option.bind_eq_some_iff] at fired
      obtain ⟨pos, held, decided⟩ := fired
      exact ⟨market, ltp, pos, rfl, holding, held, decided⟩
    · simp [if_neg holding] at fired
  | candle => simp [kind] at fired
  | optionTick optType strike ltp => simp [kind] at fired
  | fill ev => simp [kind] at fired
  | squareOff reason => simp [kind] at fired

/-- A limit that fires latches, but for an unlatched stop-loss of the P&L guardrail. -/
theorem sessionExit_halted {found : Verdict}
    (fired : sessionExit watched.strategy moment = some found)
    (latched : Latched watched moment) :
    Halted (strategyStep identity watched.strategy moment).book := by
  obtain ⟨market, ltp, pos, kind, holding, held, decided⟩ := sessionExit_cases fired
  have armed : (arm moment.settings moment.clock (watched.strategy.see ltp)).book =
      (watched.strategy.see ltp).book := arm_book _ _ _
  have ends : found.stopsDay = true ∨
      (arm moment.settings moment.clock (watched.strategy.see ltp)).book.stopForDay = true := by
    rw [armed]
    cases found with
    | guardrailPnlSl => exact .inr (latched fired)
    | eodSquareoff => exact .inl rfl
    | guardrailPnlTarget => exact .inl rfl
    | day exit => exact .inl rfl
  have halted := enact_halted identity moment.settings moment.clock (armed ▸ held) found ends
  have checked : checkExits identity moment.settings moment.clock market
      (watched.strategy.see ltp) = enact identity moment.settings moment.clock
        (arm moment.settings moment.clock (watched.strategy.see ltp)) found := by
    rw [checkExits, held]
    simp only [decided]
  simpa [strategyStep, respond, kind, Stimulus.handled, handle, indexTick, holding, checked]
    using halted

theorem watchStep_limitHolds (halted : LimitHolds watched) (latched : Latched watched moment) :
    LimitHolds (watchStep identity watched moment) := by
  intro limited
  simp only [watchStep, Bool.or_eq_true, Bool.and_eq_true, Bool.not_eq_true'] at limited
  rcases limited with ⟨before, within⟩ | fired
  · exact (respond_halted identity (halted before) within).1
  · obtain ⟨found, fired⟩ := Option.isSome_iff_exists.mp fired
    exact sessionExit_halted fired latched

/-- The candle that resets a session sends nothing. -/
theorem resets_silent {strategy : Strategy} (anew : resets strategy moment = true) :
    NoEntry identity strategy moment := by
  obtain ⟨settings, clock, stimulus⟩ := moment
  cases stimulus with
  | candle =>
    have silent := (onCandle_renews identity settings clock anew).1
    simp [NoEntry, respond, Stimulus.handled, handle, silent]
  | indexTick market ltp => simp [resets] at anew
  | optionTick optType strike ltp => simp [resets] at anew
  | fill ev => simp [resets] at anew
  | squareOff reason => simp [resets] at anew

theorem limitHolds_quiet (halted : LimitHolds watched) :
    Quiet identity watched moment := by
  intro limited
  cases anew : resets watched.strategy moment with
  | true => exact resets_silent anew
  | false => exact (respond_halted identity (halted limited) anew).2

end Watching

/-- From any strategy, in every run in which the stop-loss of the P&L guardrail fires only
on days that have ended: once a limit of the session has closed the position, no ENTRY
order is published until the session is reset. -/
theorem guardrails_absorb (identity : Identity) (strategy : Strategy) (moments : List Moment)
    (latched : Along (watchStep identity) Latched ⟨strategy, false⟩ moments) :
    Along (watchStep identity) (Quiet identity) ⟨strategy, false⟩ moments := by
  have unlimited : LimitHolds ⟨strategy, false⟩ := by simp [LimitHolds]
  apply along_under (watchStep identity) _ _ _ moments unlimited latched
  · exact fun _ _ => watchStep_limitHolds
  · exact fun _ _ halted _ => limitHolds_quiet halted

/-! ## A day that loses -/

/-- Only the stop-loss of the P&L guardrail, at twenty points. -/
def stopped : ExitSettings :=
  { targeted with guardrailPnlEnabled := true, guardrailPnlSlPts := -20, dayProfitTargetPct := 0 }

def during (settings : ExitSettings) (seconds : Int) (stimulus : Stimulus) : Moment :=
  ⟨settings, { day := 1, seconds := seconds, monotonic := seconds }, stimulus⟩

/-- A pair is entered, its premiums move, and the next two ticks offer a pair. -/
def traded (settings : ExitSettings) (ceLtp peLtp : Rat) : List Moment :=
  [during settings 33660 .candle,
    during settings 33661 (.indexTick pairOffered 24000),
    during settings 33662 (.optionTick .ce 24000 100),
    during settings 33662 (.optionTick .pe 24000 90),
    during settings 33663 (.indexTick pairOffered 24000),
    during settings 33664 (.fill confirmed),
    during settings 33800 (.optionTick .ce 24000 ceLtp),
    during settings 33800 (.optionTick .pe 24000 peLtp),
    during settings 33801 (.indexTick pairOffered 24000),
    during settings 33802 (.indexTick pairOffered 24000)]

/-- The profit target of the day keeps the book out of the market. -/
theorem guardrails_absorb_a_target :
    Along (watchStep nifty) (Quiet nifty) ⟨.fresh, false⟩ (traded targeted 45 40) :=
  guardrails_absorb nifty .fresh _ (by decide +kernel)

/-- The stop-loss of the P&L guardrail does not: a loss of 24 points closes the pair, and
the next tick enters again. -/
theorem stop_loss_enters_again :
    ¬Along (watchStep nifty) (Quiet nifty) ⟨.fresh, false⟩ (traded stopped 120 95) ∧
      (run (watchStep nifty) ⟨.fresh, false⟩ (traded stopped 120 95).dropLast).limited = true ∧
      (respond nifty
        (run (watchStep nifty) ⟨.fresh, false⟩ (traded stopped 120 95).dropLast).strategy
        (during stopped 33802 (.indexTick pairOffered 24000))).2.any isEntry = true := by
  decide +kernel

end OptionChain.GuardrailLatch
