import OptionChain.CondorTick

/-!
# What an operation of the iron condor does

Each operation leaves the position, the stored file and the published orders as
they are, or it enters, or it closes, or it adjusts. The lemmas below say once
which of these an operation can do and what each of them writes.
-/

namespace OptionChain.CondorEffects

open Broker CondorPosition IronCondor

/-- Nothing is opened, closed, saved or published. -/
structure Unchanged (before after : Strategy) : Prop where
  position : after.position = before.position
  stored : after.stored = before.stored
  published : after.published = before.published

/-- A position is opened, saved and ordered, where none was open. -/
structure Entered (settings : Settings) (clock : Clock) (before after : Strategy)
    (pos : IronCondorPosition) : Prop where
  replaces : ∀ old ∈ before.position, old.status ≠ .open
  opened : pos.status = .open
  position : after.position = some pos
  stored : after.stored = some ⟨clock.today, settings.productType, pos.toDict⟩
  published : after.published = before.published ++ [entryEvent pos]

/-- The position is closed, its file cleared and its exit ordered. -/
structure Closed (before after : Strategy) (pos : IronCondorPosition) (reason : String) :
    Prop where
  held : before.position = some pos
  position : after.position = none
  stored : after.stored = none
  published : after.published = before.published ++ [exitEvent reason pos before]

/-- A position that is not closed already, marked as broken. -/
def broken (pos : IronCondorPosition) : IronCondorPosition :=
  if pos.status = .closed then pos else { pos with status := .broken }

/-- An adjustment raises before it has booked or ordered anything. -/
structure Refused (before after : Strategy) (pos : IronCondorPosition) : Prop where
  lots : pos.lotSize = 0
  position : after.position = some (broken pos)
  stored : after.stored = before.stored
  published : after.published = before.published

/-- An adjustment raises after its first order. -/
structure Halved (settings : Settings) (side : OptType) (before after : Strategy)
    (pos : IronCondorPosition) : Prop where
  lots : pos.lotSize ≠ 0
  step : settings.strikeStep = 0
  position : after.position = some (broken (IronCondorPosition.booked pos side before))
  stored : after.stored = before.stored
  published : after.published = before.published ++
    [adjustCloseEvent (IronCondorPosition.booked pos side before) side before]

/-- The position as an adjustment leaves it. -/
def rolledPosition (settings : Settings) (side : OptType) (before : Strategy)
    (pos : IronCondorPosition) : IronCondorPosition :=
  let booked := IronCondorPosition.booked pos side before
  let strike := newShortStrike settings booked side before
  IronCondorPosition.roll booked side strike
    (execPrice before (legKey before.underlying strike side) .sell)

/-- The two orders of a complete adjustment. -/
def rollOrders (settings : Settings) (side : OptType) (before : Strategy)
    (pos : IronCondorPosition) : List ICOrderEvent :=
  let booked := IronCondorPosition.booked pos side before
  [adjustCloseEvent booked side before, adjustOpenEvent settings booked side before]

/-- A complete adjustment that keeps the position. The file is not written. -/
structure Rolled (settings : Settings) (side : OptType) (before after : Strategy)
    (pos : IronCondorPosition) : Prop where
  lots : pos.lotSize ≠ 0
  step : settings.strikeStep ≠ 0
  below : ¬pos.maxAdj ≤ pos.adjCount side + 1
  position : after.position = some (rolledPosition settings side before pos)
  stored : after.stored = before.stored
  published : after.published = before.published ++ rollOrders settings side before pos

/-- A complete adjustment that is the last one allowed and closes the position. -/
structure Exhausted (settings : Settings) (side : OptType) (before after : Strategy)
    (pos : IronCondorPosition) : Prop where
  lots : pos.lotSize ≠ 0
  step : settings.strikeStep ≠ 0
  reached : pos.maxAdj ≤ pos.adjCount side + 1
  position : after.position = none
  stored : after.stored = none
  published : after.published = before.published ++ rollOrders settings side before pos ++
    [exitEvent "max_adjustments_reached" (rolledPosition settings side before pos) before]

/-- What an adjustment of a position can do. -/
inductive Adjustment (settings : Settings) (side : OptType) (before after : Strategy)
    (pos : IronCondorPosition) : Prop where
  | refused (refused : Refused before after pos)
  | halved (halved : Halved settings side before after pos)
  | rolled (rolled : Rolled settings side before after pos)
  | exhausted (exhausted : Exhausted settings side before after pos)

section Operations

variable {settings : Settings} {clock : Clock} {strategy : Strategy}
  {pos : IronCondorPosition}

theorem closePosition_none (reason : String) (nothing : strategy.position = none) :
    closePosition settings clock reason strategy = strategy := by
  simp [closePosition, beginClose, nothing]

theorem closePosition_closed (reason : String) (held : strategy.position = some pos) :
    Closed strategy (closePosition settings clock reason strategy) pos reason := by
  refine ⟨held, ?_, ?_, ?_⟩ <;>
    simp [closePosition, beginClose, held, finishClose, persist, Strategy.publish]

/-- Before its subscriptions an attempt only notes its time. -/
theorem tryEntry_tried :
    ∃ time, (tryEntry settings clock strategy).1 = { strategy with lastEntryAttempt := time } := by
  rw [tryEntry]
  by_cases throttled : clock.monotonic - strategy.lastEntryAttempt < 1
  · exact ⟨strategy.lastEntryAttempt, by rw [if_pos throttled]⟩
  · refine ⟨clock.monotonic, ?_⟩
    rw [if_neg throttled]
    dsimp only
    split_ifs <;> rfl

/-- An attempt goes on to its subscriptions only where no position is open. -/
theorem tryEntry_free (plan : EntryPlan)
    (planned : (tryEntry settings clock strategy).2 = some plan) :
    ∀ old ∈ strategy.position, old.status ≠ .open := by
  rw [tryEntry] at planned
  by_cases throttled : clock.monotonic - strategy.lastEntryAttempt < 1
  · rw [if_pos throttled] at planned
    cases planned
  · rw [if_neg throttled] at planned
    dsimp only at planned
    split_ifs at planned with cooling allowed candidates
    exact allowed.2.2.1

/-- The position of an entry is open. -/
theorem entryFor_open {plan : EntryPlan} {tradeId : String}
    (found : entryFor settings clock plan tradeId strategy = some pos) : pos.status = .open := by
  rw [entryFor] at found
  split at found
  · cases found
  · simp only [Option.ite_none_right_eq_some, Option.some.injEq] at found
    rw [← found.2]
    rfl

/-- After its subscriptions an attempt leaves everything or enters. -/
theorem fireEntry_effect (plan : EntryPlan) (tradeId : String)
    (replaces : ∀ old ∈ strategy.position, old.status ≠ .open) :
    Unchanged strategy (fireEntry settings clock plan tradeId strategy) ∨
      ∃ pos, Entered settings clock strategy
        (fireEntry settings clock plan tradeId strategy) pos := by
  cases found : entryFor settings clock plan tradeId strategy with
  | none =>
    simp only [fireEntry, found]
    exact Or.inl ⟨rfl, rfl, rfl⟩
  | some pos =>
    have opened := entryFor_open found
    simp only [fireEntry, found]
    refine Or.inr ⟨pos, replaces, opened, ?_, ?_, ?_⟩ <;>
      simp [persist, opened, Strategy.publish]

/-- A whole attempt to enter leaves everything or enters. -/
theorem enter_effect (tradeId : String) :
    Unchanged strategy (enter settings clock tradeId strategy) ∨
      ∃ pos, Entered settings clock strategy (enter settings clock tradeId strategy) pos := by
  obtain ⟨time, noted⟩ := @tryEntry_tried settings clock strategy
  have free := @tryEntry_free settings clock strategy
  rw [enter]
  cases attempt : tryEntry settings clock strategy with
  | mk tried planned =>
    rw [attempt] at noted free
    cases planned with
    | none =>
      dsimp only at noted ⊢
      rw [noted]
      exact Or.inl ⟨rfl, rfl, rfl⟩
    | some plan =>
      dsimp only at noted ⊢
      rw [noted]
      have replaces := free plan rfl
      rcases @fireEntry_effect settings clock { strategy with lastEntryAttempt := time } plan
          tradeId replaces with
        same | ⟨pos, entered⟩
      · exact Or.inl ⟨same.position, same.stored, same.published⟩
      · exact Or.inr ⟨pos, replaces, entered.opened, entered.position, entered.stored,
          entered.published⟩

/-- The managing branch leaves everything, or closes a position whose exit is due. -/
theorem manage_effect (held : strategy.position = some pos) (opened : pos.status = .open)
    (free : strategy.adjusting = false) :
    Unchanged strategy (manage settings clock strategy) ∨
      (CondorTick.ExitDue settings clock pos ∧
        ∃ reason, Closed strategy (manage settings clock strategy) pos reason) := by
  rw [manage]
  by_cases due : CondorTick.ExitDue settings clock pos
  · obtain ⟨reason, worked⟩ := CondorTick.openTick_of_exitDue held due
    rw [worked]
    exact Or.inr ⟨due, reason, closePosition_closed reason held⟩
  · have worked := CondorTick.openTick_of_not_exitDue held opened free due
    have kept : exitReason settings clock pos = none := by
      rw [← CondorTick.exitReason_isSome_iff, Option.not_isSome_iff_eq_none] at due
      exact due
    have same : checkExits settings clock strategy = strategy := by
      simp [checkExits, held, kept]
    rw [worked, same]
    split_ifs
    · exact Or.inl ⟨rfl, rfl, rfl⟩
    · exact Or.inl ⟨rfl, rfl, rfl⟩

/-- Without a position, under the lock and on a broken position no adjustment begins. -/
theorem beginAdjust_skipped (side : OptType)
    (idle : ∀ pos ∈ strategy.position, strategy.adjusting = true ∨ pos.status = .broken) :
    beginAdjust settings side strategy = (strategy, .skipped) := by
  rw [beginAdjust]
  cases held : strategy.position with
  | none => rfl
  | some pos => exact if_pos (idle pos held)

section Begin

variable (held : strategy.position = some pos) (free : strategy.adjusting = false)
  (sound : pos.status ≠ .broken) (side : OptType)

include held free sound

/-- Without lots an adjustment raises at once. -/
theorem beginAdjust_refused (lots : pos.lotSize = 0) :
    beginAdjust settings side strategy =
      (markBroken { strategy with adjusting := true }, .failed) := by
  simp [beginAdjust, held, free, sound, lots]

/-- Without a strike step it raises after its first order. -/
theorem beginAdjust_halved (lots : pos.lotSize ≠ 0) (step : settings.strikeStep = 0) :
    beginAdjust settings side strategy =
      (markBroken { ({ strategy with adjusting := true }.publish (adjustCloseEvent
        (IronCondorPosition.booked pos side strategy) side strategy)) with
        position := some (IronCondorPosition.booked pos side strategy) }, .failed) := by
  simp [beginAdjust, held, free, sound, lots, step]

/-- Else it publishes both orders and rolls the position. -/
theorem beginAdjust_rolled (lots : pos.lotSize ≠ 0) (step : settings.strikeStep ≠ 0) :
    ∃ rolled : Strategy, beginAdjust settings side strategy = (rolled,
        .rolled (pos.adjCount side + 1) pos.maxAdj) ∧
      rolled.position = some (rolledPosition settings side strategy pos) ∧
      rolled.stored = strategy.stored ∧
      rolled.published = strategy.published ++ rollOrders settings side strategy pos := by
  have counted : (rolledPosition settings side strategy pos).adjCount side =
      pos.adjCount side + 1 := by
    cases side <;> rfl
  have allowed : (rolledPosition settings side strategy pos).maxAdj = pos.maxAdj := by
    cases side <;> rfl
  rw [← counted, ← allowed]
  refine ⟨(beginAdjust settings side strategy).1, ?_, ?_, ?_, ?_⟩ <;>
    simp [beginAdjust, held, free, sound, lots, step, rolledPosition, rollOrders,
      Strategy.publish]

/-- What an adjustment of a position that is neither locked nor broken does. -/
theorem adjust_effect :
    Adjustment settings side strategy (adjustIronCondor settings clock side strategy) pos := by
  rw [adjustIronCondor]
  by_cases lots : pos.lotSize = 0
  · rw [beginAdjust_refused held free sound side lots]
    exact .refused ⟨lots, by simp [unlock, markBroken, held, broken], rfl, rfl⟩
  · by_cases step : settings.strikeStep = 0
    · rw [beginAdjust_halved held free sound side lots step]
      exact .halved ⟨lots, step, by simp [unlock, markBroken, broken], rfl, rfl⟩
    · obtain ⟨rolled, begun, position, stored, published⟩ :=
        beginAdjust_rolled held free sound side lots step
      rw [begun]
      by_cases reached : pos.maxAdj ≤ pos.adjCount side + 1
      · have closed := @closePosition_closed settings clock _ _
          "max_adjustments_reached" position
        simp only [Nat.cast_add, Nat.cast_one, reached, if_true]
        refine .exhausted ⟨lots, step, reached, closed.position, closed.stored, ?_⟩
        have ordered := closed.published
        rw [published] at ordered
        simpa [unlock, exitEvent] using ordered
      · simp only [Nat.cast_add, Nat.cast_one, reached, if_false]
        exact .rolled ⟨lots, step, reached, position, stored, published⟩

end Begin

theorem adjust_skipped (side : OptType)
    (idle : ∀ pos ∈ strategy.position, strategy.adjusting = true ∨ pos.status = .broken) :
    adjustIronCondor settings clock side strategy = strategy := by
  rw [adjustIronCondor, beginAdjust_skipped side idle]

/-- The tick loop closes the position that it manages. -/
structure TickCloses (settings : Settings) (clock : Clock) (before after : Strategy)
    (pos : IronCondorPosition) (reason : String) : Prop where
  opened : pos.status = .open
  due : CondorTick.ExitDue settings clock pos
  closed : Closed before after pos reason

/-- A tick leaves everything, closes the position it manages, or enters. -/
theorem indexTick_effect (ltp : Rat) (tradeId : String) :
    Unchanged strategy (indexTick settings clock ltp tradeId strategy) ∨
      (∃ pos reason, TickCloses settings clock strategy
        (indexTick settings clock ltp tradeId strategy) pos reason) ∨
      ∃ pos, Entered settings clock strategy
        (indexTick settings clock ltp tradeId strategy) pos := by
  rw [indexTick]
  by_cases alive : strategy.tickLoopAlive = true
  · rw [if_pos alive]
    by_cases inside : managed (strategy.ticked ltp)
    · obtain ⟨pos, held, opened⟩ := inside
      have inside : managed (strategy.ticked ltp) := ⟨pos, held, opened⟩
      simp only [inside, if_true]
      by_cases locked : (strategy.ticked ltp).adjusting = true
      · rw [if_pos locked]
        exact Or.inl ⟨rfl, rfl, rfl⟩
      · rw [if_neg locked]
        rcases @manage_effect settings clock _ _ held opened
          (Bool.eq_false_iff.mpr locked) with same | ⟨due, reason, closed⟩
        · exact Or.inl ⟨same.position, same.stored, same.published⟩
        · exact Or.inr (Or.inl ⟨pos, reason, opened, due, held, closed.position,
            closed.stored, closed.published⟩)
    · simp only [inside, if_false]
      rcases @enter_effect settings clock (strategy.ticked ltp) tradeId with same | ⟨pos, entered⟩
      · exact Or.inl ⟨same.position, same.stored, same.published⟩
      · exact Or.inr (Or.inr ⟨pos, entered.replaces, entered.opened, entered.position,
          entered.stored, entered.published⟩)
  · rw [if_neg alive]
    exact Or.inl ⟨rfl, rfl, rfl⟩

/-- Option ticks move last prices only. -/
theorem optionTick_effect (tick : OptionTick) :
    ((optionTick tick strategy).position = strategy.position ∨
      (optionTick tick strategy).position =
        strategy.position.map (IronCondorPosition.updateLtp tick)) ∧
      (optionTick tick strategy).stored = strategy.stored ∧
      (optionTick tick strategy).published = strategy.published ∧
      (optionTick tick strategy).adjusting = strategy.adjusting := by
  cases held : strategy.position with
  | none =>
    by_cases ours : tick.underlying = strategy.underlying
    · simp [optionTick, ours, held]
    · simp [optionTick, ours, held]
  | some pos =>
    by_cases ours : tick.underlying = strategy.underlying
    · by_cases same : pos.underlying = strategy.underlying
      · simp [optionTick, ours, held, same]
      · simp [optionTick, ours, held, same]
    · by_cases same : pos.underlying = tick.underlying
      · simp [optionTick, ours, held, same]
      · simp [optionTick, ours, held, same]

end Operations

end OptionChain.CondorEffects
