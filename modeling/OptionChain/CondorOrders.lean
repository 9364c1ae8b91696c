import OptionChain.CondorBridge
import OptionChain.CondorStore

/-!
# The orders of an iron condor and its position

The strategy keeps four legs, the bridge trades what the order events say. An
entry and a close agree with each other where the close meets the expiry of the
position as the nearest one; `orders_refine_the_position` states this for every
run. The two orders of an adjustment are traded like closes of all four legs, and
`adjust_out_of_step` shows that this never ends in the adjusted position.
-/

namespace OptionChain.CondorOrders

open Broker Rounding CondorPosition IronCondor CondorBridge CondorEffects

/-- The strategy and every order that its broker has filled. -/
structure Account where
  strategy : Strategy
  orders : List LiveOrder := []

/-- The orders published by one event are traded before the next one. -/
def accountStep (account : Account) (event : CondorEvent) : Account :=
  let after := operate account.strategy event
  { strategy := after
    orders := account.orders ++
      (after.published.drop account.strategy.published.length).flatMap (liveFill event.clock) }

/-- The holding of a position: a short lot of each short leg and a long lot of each
hedge, on its own expiry. -/
def legOrders (pos : IronCondorPosition) : List LiveOrder :=
  [⟨⟨pos.expiry, towardZero pos.shortCe.strike, .ce⟩, .sell, pos.lotSize⟩,
    ⟨⟨pos.expiry, towardZero pos.shortPe.strike, .pe⟩, .sell, pos.lotSize⟩,
    ⟨⟨pos.expiry, towardZero pos.longCe.strike, .ce⟩, .buy, pos.lotSize⟩,
    ⟨⟨pos.expiry, towardZero pos.longPe.strike, .pe⟩, .buy, pos.lotSize⟩]

/-- What the broker has to hold for a position, and nothing for none. -/
def expected (position : Option IronCondorPosition) : List LiveOrder :=
  position.elim [] legOrders

/-- The broker holds the legs of the position and nothing else. -/
def Refines (account : Account) : Prop :=
  ∀ contract, holding account.orders contract =
    holding (expected account.strategy.position) contract

/-- A position with lots is not adjusted, and closed only while its expiry is the
nearest one. -/
def Plain (account : Account) (event : CondorEvent) : Prop :=
  ∀ pos ∈ account.strategy.position, pos.lotSize ≠ 0 →
    match event.operation with
    | .adjust _ => False
    | .close _ => nearestExpiry event.clock = pos.expiry
    | .indexTick _ _ => CondorTick.ExitDue event.settings event.clock pos →
        nearestExpiry event.clock = pos.expiry
    | .optionTick _ | .candle _ => True

instance plainDecidable (account : Account) : ∀ event, Decidable (Plain account event)
  | ⟨_, _, .adjust _⟩ =>
      inferInstanceAs (Decidable (∀ pos ∈ account.strategy.position, pos.lotSize ≠ 0 → False))
  | ⟨_, clock, .close _⟩ =>
      inferInstanceAs (Decidable (∀ pos ∈ account.strategy.position, pos.lotSize ≠ 0 →
        nearestExpiry clock = pos.expiry))
  | ⟨settings, clock, .indexTick _ _⟩ =>
      inferInstanceAs (Decidable (∀ pos ∈ account.strategy.position, pos.lotSize ≠ 0 →
        CondorTick.ExitDue settings clock pos → nearestExpiry clock = pos.expiry))
  | ⟨_, _, .optionTick _⟩ | ⟨_, _, .candle _⟩ =>
      inferInstanceAs (Decidable (∀ pos ∈ account.strategy.position, pos.lotSize ≠ 0 → True))

/-- A position that is not open has no lots, so an entry replaces nothing. -/
structure InStep (account : Account) : Prop where
  refines : Refines account
  marked : ∀ pos ∈ account.strategy.position, pos.status ≠ .open → pos.lotSize = 0

section Orders

variable {clock : Clock} {settings : Settings} {account : Account} {event : CondorEvent}
  {pos : IronCondorPosition} {reason : String}

/-- The orders of an entry are the legs of its position. -/
theorem liveFill_entry : liveFill clock (entryEvent pos) = legOrders pos := by
  simp [liveFill, liveLegs, entryEvent, orderExpiry, legOrders]

/-- The orders of a close take the legs back, where they meet their expiry. -/
theorem holding_exit (strategy : Strategy) (contract : Contract)
    (near : pos.lotSize ≠ 0 → nearestExpiry clock = pos.expiry) :
    holding (liveFill clock (exitEvent reason pos strategy)) contract =
      -holding (legOrders pos) contract := by
  by_cases lots : pos.lotSize = 0
  · simp [liveFill, liveLegs, exitEvent, legOrders, lots, traded]
  · simp only [liveFill, liveLegs, exitEvent, orderExpiry, near lots, legOrders, traded,
      reduceCtorEq, if_false, List.map_cons, List.map_nil, Option.getD_none, holding_cons,
      holding_nil, mul_one]
    split_ifs <;> omega

/-- A position without lots holds nothing. -/
theorem holding_lotless (lotless : pos.lotSize = 0) (contract : Contract) :
    holding (legOrders pos) contract = 0 := by
  simp [legOrders, traded, lotless]

/-- Ticks move no leg. -/
theorem legOrders_update (tick : OptionTick) (pos : IronCondorPosition) :
    legOrders (IronCondorPosition.updateLtp tick pos) = legOrders pos := by
  rw [IronCondorPosition.updateLtp]
  split
  · rfl
  · simp [legOrders]

/-- An event that publishes nothing trades nothing. -/
theorem accountStep_quiet (same : (operate account.strategy event).published =
    account.strategy.published) : (accountStep account event).orders = account.orders := by
  simp [accountStep, same]

/-- What one event publishes is what it trades. -/
theorem accountStep_orders {events : List ICOrderEvent}
    (published : (operate account.strategy event).published =
      account.strategy.published ++ events) :
    (accountStep account event).orders =
      account.orders ++ events.flatMap (liveFill event.clock) := by
  simp [accountStep, published]

/-- An event without an effect keeps the broker in step. -/
theorem unchanged_inStep (inStep : InStep account)
    (same : Unchanged account.strategy (operate account.strategy event)) :
    InStep (accountStep account event) := by
  have orders := accountStep_quiet same.published
  have position : (accountStep account event).strategy.position = account.strategy.position :=
    same.position
  constructor
  · rw [Refines, orders, position]
    exact inStep.refines
  · rw [position]
    exact inStep.marked

/-- So does one that trades nothing and leaves the same legs. -/
theorem marked_inStep (inStep : InStep account)
    (published : (operate account.strategy event).published = account.strategy.published)
    (legs : ∀ contract, holding (expected (operate account.strategy event).position) contract =
      holding (expected account.strategy.position) contract)
    (marked : ∀ pos ∈ (operate account.strategy event).position, pos.status ≠ .open →
      pos.lotSize = 0) : InStep (accountStep account event) := by
  constructor
  · intro contract
    rw [accountStep_quiet published, inStep.refines contract]
    exact (legs contract).symm
  · exact marked

theorem entered_inStep (inStep : InStep account)
    (entered : Entered event.settings event.clock account.strategy
      (operate account.strategy event) pos) : InStep (accountStep account event) := by
  have orders := accountStep_orders entered.published
  have position : (accountStep account event).strategy.position = some pos := entered.position
  have nothing (contract : Contract) : holding account.orders contract = 0 := by
    rw [inStep.refines contract]
    cases held : account.strategy.position with
    | none => rfl
    | some old =>
      exact holding_lotless (inStep.marked old held (entered.replaces old held)) contract
  constructor
  · intro contract
    rw [orders, position, holding_append, nothing contract]
    simp [liveFill_entry, expected]
  · rw [position]
    rintro same ⟨⟩ marked
    exact absurd entered.opened marked

theorem closed_inStep (inStep : InStep account)
    (closed : Closed account.strategy (operate account.strategy event) pos reason)
    (near : pos.lotSize ≠ 0 → nearestExpiry event.clock = pos.expiry) :
    InStep (accountStep account event) := by
  have orders := accountStep_orders closed.published
  have position : (accountStep account event).strategy.position = none := closed.position
  constructor
  · intro contract
    have before := inStep.refines contract
    rw [closed.held] at before
    rw [orders, position, holding_append, before]
    simp [holding_exit account.strategy contract near, expected]
  · rw [position]
    rintro same ⟨⟩

/-- A price trades nothing and leaves the legs. -/
theorem optionTick_inStep (settings : Settings) (clock : Clock) (inStep : InStep account)
    (tick : OptionTick) : InStep (accountStep account ⟨settings, clock, .optionTick tick⟩) := by
  obtain ⟨priced, stored, published, -⟩ :=
    @optionTick_effect account.strategy tick
  rcases priced with same | moved
  · exact unchanged_inStep inStep ⟨same, stored, published⟩
  · apply @marked_inStep _ ⟨settings, clock, .optionTick tick⟩ inStep published
    · intro contract
      rw [show (operate account.strategy ⟨settings, clock, .optionTick tick⟩).position =
        account.strategy.position.map (IronCondorPosition.updateLtp tick) from moved]
      cases account.strategy.position with
      | none => rfl
      | some pos =>
        simp only [Option.map_some, expected, Option.elim_some, legOrders_update]
    · intro priced found marked
      obtain ⟨pos, held, rfl⟩ := Option.mem_map.mp (moved ▸ found)
      rw [updateLtp_status] at marked
      rw [updateLtp_lotSize]
      exact inStep.marked pos held marked

/-- An adjustment without lots is refused, or skipped. -/
theorem adjust_inStep {settings : Settings} {clock : Clock} (inStep : InStep account)
    (side : OptType) (plain : Plain account ⟨settings, clock, .adjust side⟩) :
    InStep (accountStep account ⟨settings, clock, .adjust side⟩) := by
  by_cases idle : ∀ pos ∈ account.strategy.position,
      account.strategy.adjusting = true ∨ pos.status = .broken
  · have same : operate account.strategy ⟨settings, clock, .adjust side⟩ =
        account.strategy := adjust_skipped side idle
    exact unchanged_inStep inStep ⟨by rw [same], by rw [same], by rw [same]⟩
  · simp only [not_forall, not_or, Bool.not_eq_true] at idle
    obtain ⟨pos, held, free, sound⟩ := idle
    have lotless : pos.lotSize = 0 := by
      by_contra lots
      exact plain pos held lots
    cases @adjust_effect settings clock _ _ held free sound side with
    | refused refused =>
      have position : (operate account.strategy ⟨settings, clock, .adjust side⟩).position =
          some (broken pos) := refused.position
      have still : (broken pos).lotSize = 0 := by
        rw [broken]
        split <;> exact lotless
      apply @marked_inStep _ ⟨settings, clock, .adjust side⟩ inStep refused.published
      · intro contract
        rw [Option.mem_def] at held
        rw [position, held]
        simp only [expected, Option.elim_some, holding_lotless still, holding_lotless lotless]
      · intro same found marked
        rw [position] at found
        cases found
        exact still
    | halved halved => exact absurd lotless halved.lots
    | rolled rolled => exact absurd lotless rolled.lots
    | exhausted exhausted => exact absurd lotless exhausted.lots

/-- One plain event keeps the broker in step. -/
theorem accountStep_inStep (account : Account) (event : CondorEvent) (inStep : InStep account)
    (plain : Plain account event) : InStep (accountStep account event) := by
  obtain ⟨settings, clock, operation⟩ := event
  cases operation with
  | optionTick tick => exact optionTick_inStep settings clock inStep tick
  | indexTick ltp tradeId =>
    rcases @indexTick_effect settings clock account.strategy ltp tradeId with same |
      ⟨pos, reason, closes⟩ |
      ⟨pos, entered⟩
    · exact unchanged_inStep inStep same
    · exact closed_inStep inStep closes.closed
        (fun lots => plain pos closes.closed.held lots closes.due)
    · exact entered_inStep inStep entered
  | candle tradeId =>
    rcases @enter_effect settings clock account.strategy tradeId with same | ⟨pos, entered⟩
    · exact unchanged_inStep inStep same
    · exact entered_inStep inStep entered
  | adjust side => exact adjust_inStep inStep side plain
  | close reason =>
    cases held : account.strategy.position with
    | none =>
      have same : operate account.strategy ⟨settings, clock, .close reason⟩ =
          account.strategy := closePosition_none reason held
      exact unchanged_inStep inStep ⟨by rw [same], by rw [same], by rw [same]⟩
    | some pos =>
      exact closed_inStep inStep (closePosition_closed reason held) (plain pos held)

end Orders

/-! ## Adjustments -/

section Adjustment

variable {settings : Settings} {clock : Clock} {account : Account} {pos : IronCondorPosition}

/-- The strike of the short leg that an event names for a side. -/
def shortStrike (event : ICOrderEvent) : OptType → Rat
  | .ce => event.shortCeStrike
  | .pe => event.shortPeStrike

/-- The strike of the hedge that an event names for a side. -/
def longStrike (event : ICOrderEvent) : OptType → Rat
  | .ce => event.longCeStrike
  | .pe => event.longPeStrike

/-- Every action but an entry buys the short legs that it names. -/
theorem holding_bought (event : ICOrderEvent) (side : OptType)
    (other : event.action ≠ .entry) (undated : event.expiry = none)
    (apart : towardZero (shortStrike event side) ≠ towardZero (longStrike event side)) :
    holding (liveFill clock event)
      ⟨nearestExpiry clock, towardZero (shortStrike event side), side⟩ =
      event.lotSize * event.lotMultiplier := by
  cases side with
  | ce =>
    have hedge : towardZero event.longCeStrike ≠ towardZero event.shortCeStrike := apart.symm
    simp [liveFill, liveLegs, other, orderExpiry, undated, traded, shortStrike, hedge]
  | pe =>
    have hedge : towardZero event.longPeStrike ≠ towardZero event.shortPeStrike := apart.symm
    simp [liveFill, liveLegs, other, orderExpiry, undated, traded, shortStrike, hedge]

/-- A position is short its short legs, on its own expiry. -/
theorem holding_short (pos : IronCondorPosition) (side : OptType) (expiry : Day)
    (apart : towardZero (pos.short side).strike ≠ towardZero (pos.long side).strike) :
    holding (legOrders pos) ⟨expiry, towardZero (pos.short side).strike, side⟩ =
      if pos.expiry = expiry then -pos.lotSize else 0 := by
  cases side with
  | ce =>
    have hedge : towardZero pos.longCe.strike ≠ towardZero pos.shortCe.strike := apart.symm
    simp [legOrders, traded, IronCondorPosition.short, hedge]
  | pe =>
    have hedge : towardZero pos.longPe.strike ≠ towardZero pos.shortPe.strike := apart.symm
    simp [legOrders, traded, IronCondorPosition.short, hedge]

section Bought

variable (side : OptType) (strategy : Strategy)
  (apart : towardZero (pos.short side.other).strike ≠ towardZero (pos.long side.other).strike)

include apart

/-- The first order of an adjustment buys the short leg of the other side. -/
theorem bought_adjustClose : holding (liveFill clock (adjustCloseEvent
    (IronCondorPosition.booked pos side strategy) side strategy))
    ⟨nearestExpiry clock, towardZero (pos.short side.other).strike, side.other⟩ =
    pos.lotSize := by
  cases side with
  | ce => exact (@holding_bought clock (adjustCloseEvent
      (IronCondorPosition.booked pos .ce strategy) .ce strategy) .pe
      nofun rfl apart).trans (mul_one _)
  | pe => exact (@holding_bought clock (adjustCloseEvent
      (IronCondorPosition.booked pos .pe strategy) .pe strategy) .ce
      nofun rfl apart).trans (mul_one _)

/-- So does the second one. -/
theorem bought_adjustOpen : holding (liveFill clock (adjustOpenEvent settings
    (IronCondorPosition.booked pos side strategy) side strategy))
    ⟨nearestExpiry clock, towardZero (pos.short side.other).strike, side.other⟩ =
    pos.lotSize := by
  cases side with
  | ce => exact (@holding_bought clock (adjustOpenEvent settings
      (IronCondorPosition.booked pos .ce strategy) .ce strategy) .pe
      nofun rfl apart).trans (mul_one _)
  | pe => exact (@holding_bought clock (adjustOpenEvent settings
      (IronCondorPosition.booked pos .pe strategy) .pe strategy) .ce
      nofun rfl apart).trans (mul_one _)

/-- And so does the close after a last adjustment. -/
theorem bought_exit (reason : String) : holding (liveFill clock (exitEvent reason
    (rolledPosition settings side strategy pos) strategy))
    ⟨nearestExpiry clock, towardZero (pos.short side.other).strike, side.other⟩ =
    pos.lotSize := by
  cases side with
  | ce => exact (@holding_bought clock (exitEvent reason
      (rolledPosition settings .ce strategy pos) strategy) .pe
      nofun rfl apart).trans (mul_one _)
  | pe => exact (@holding_bought clock (exitEvent reason
      (rolledPosition settings .pe strategy pos) strategy) .ce
      nofun rfl apart).trans (mul_one _)

/-- An adjusted position is short that leg as before. -/
theorem rolled_short (expiry : Day) : holding (legOrders
    (rolledPosition settings side strategy pos))
    ⟨expiry, towardZero (pos.short side.other).strike, side.other⟩ =
    if pos.expiry = expiry then -pos.lotSize else 0 := by
  cases side with
  | ce => exact holding_short (rolledPosition settings .ce strategy pos) .pe expiry apart
  | pe => exact holding_short (rolledPosition settings .pe strategy pos) .ce expiry apart

end Bought

/-- No adjustment of a position with lots ends with the broker in step, where the
short leg and the hedge of the other side are different contracts: that short leg
is bought by every order of the adjustment. -/
theorem adjust_out_of_step (refines : Refines account)
    (held : account.strategy.position = some pos) (free : account.strategy.adjusting = false)
    (sound : pos.status ≠ .broken) (lots : pos.lotSize ≠ 0) (side : OptType)
    (apart : towardZero (pos.short side.other).strike ≠
      towardZero (pos.long side.other).strike) :
    ¬Refines (accountStep account ⟨settings, clock, .adjust side⟩) := by
  intro after
  have here := after ⟨nearestExpiry clock, towardZero (pos.short side.other).strike, side.other⟩
  have before := refines
    ⟨nearestExpiry clock, towardZero (pos.short side.other).strike, side.other⟩
  rw [held, expected, Option.elim_some, holding_short pos side.other _ apart] at before
  have first := @bought_adjustClose clock _ side account.strategy apart
  have second := @bought_adjustOpen settings clock _ side
    account.strategy apart
  have last := @bought_exit settings clock _ side account.strategy apart
    "max_adjustments_reached"
  cases @adjust_effect settings clock _ _ held free sound side with
  | refused refused => exact absurd refused.lots lots
  | halved halved =>
    have legs : legOrders (broken (IronCondorPosition.booked pos side account.strategy)) =
        legOrders pos := by
      rw [broken]
      split <;> rfl
    rw [@accountStep_orders _ ⟨settings, clock, .adjust side⟩ _ halved.published,
      show (accountStep account ⟨settings, clock, .adjust side⟩).strategy.position = _ from
        halved.position, expected, Option.elim_some, legs,
      holding_short pos side.other _ apart, holding_append, before] at here
    simp only [List.flatMap_cons, List.flatMap_nil, List.append_nil, first] at here
    omega
  | rolled rolled =>
    have moved := @rolled_short settings _ side account.strategy apart
      (nearestExpiry clock)
    rw [@accountStep_orders _ ⟨settings, clock, .adjust side⟩ _ rolled.published,
      show (accountStep account ⟨settings, clock, .adjust side⟩).strategy.position = _ from
        rolled.position, expected, Option.elim_some, moved, holding_append, before] at here
    simp only [rollOrders, List.flatMap_cons, List.flatMap_nil, List.append_nil,
      holding_append, first, second] at here
    omega
  | exhausted exhausted =>
    rw [@accountStep_orders _ ⟨settings, clock, .adjust side⟩ _
        (exhausted.published.trans (List.append_assoc _ _ _)),
      show (accountStep account ⟨settings, clock, .adjust side⟩).strategy.position = _ from
        exhausted.position, expected, Option.elim_none, holding_append, before] at here
    simp only [rollOrders, List.cons_append, List.nil_append, List.flatMap_cons,
      List.flatMap_nil, List.append_nil, holding_append, first, second, last,
      holding_nil] at here
    split_ifs at here <;> omega

end Adjustment

/-- In every run from a strategy without a position whose events are all plain, the
broker holds after every event exactly the legs of the position. -/
theorem orders_refine_the_position (start : Strategy) (events : List CondorEvent)
    (nothing : start.position = none)
    (plain : Runs.Along accountStep Plain { strategy := start } events) :
    Refines (Runs.run accountStep { strategy := start } events) := by
  have initially : InStep { strategy := start } := by
    constructor
    · intro contract
      simp [nothing, expected]
    · rw [nothing]
      rintro pos ⟨⟩
  have inStep := Runs.along_invariant accountStep accountStep_inStep { strategy := start }
    events initially plain
  exact inStep.refines

/-- An entry and a close in the week of the expiry. -/
def enterAndClose : List CondorEvent :=
  [⟨.shipped, noon, .indexTick 24600 "t1"⟩, ⟨.shipped, noon, .close "stop_loss"⟩]

/-- Both events are plain. -/
theorem orders_refine_an_entry_and_its_close :
    Refines (Runs.run accountStep { strategy := CondorStore.quoted } enterAndClose) :=
  orders_refine_the_position CondorStore.quoted enterAndClose rfl (by decide +kernel)

/-- After one adjustment of the call side the broker is long the short put of the
position, which the bridge has bought twice. -/
theorem orders_after_an_adjustment :
    ¬Refines (Runs.run accountStep { strategy := CondorStore.quoted }
      (CondorStore.enterAndAdjust .shipped)) := by
  intro refines
  have bought : holding (Runs.run accountStep { strategy := CondorStore.quoted }
      (CondorStore.enterAndAdjust .shipped)).orders ⟨10, 24300, .pe⟩ = 65 := by decide +kernel
  have sold : holding (expected (Runs.run accountStep { strategy := CondorStore.quoted }
      (CondorStore.enterAndAdjust .shipped)).strategy.position) ⟨10, 24300, .pe⟩ = -65 := by
    decide +kernel
  have same := refines ⟨10, 24300, .pe⟩
  rw [bought, sold] at same
  exact absurd same (by decide)

end OptionChain.CondorOrders
